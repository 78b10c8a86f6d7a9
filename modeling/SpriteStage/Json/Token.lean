import SpriteStage.Json.Source
import SpriteStage.Number.Literal

namespace SpriteStage.Json

/-- A token. A literal is a word or a number. A string without content has half a surrogate
    pair. -/
inductive Token where
  | openArray
  | closeArray
  | openObject
  | closeObject
  | comma
  | colon
  | literal (value : Source)
  | string (content : Option String)

/-- Takes digits into a number as long as it stays below `2 ^ 64`; the digits left over are
    returned. -/
def absorb (total : Nat) : List Char → Nat × List Char
  | [] => (total, [])
  | c :: rest =>
    let next := 10 * total + (c.toNat - '0'.toNat)
    if next < Nat.pow 2 64 then absorb next rest else (total, c :: rest)

/-- The double nearest to `10 ^ exponent`, for exponents of a double. -/
def powerOfTen (exponent : Nat) : Float :=
  Float.ofScientific 1 false exponent

/-- A significand times a power of ten. The significand becomes a double first and is then
    multiplied or divided by a double; what lies beyond the range of doubles has no value, what lies
    below it is zero. -/
def scale? (significand : Nat) (exponent : Int) : Option Float :=
  let x := Number.ofInt significand
  if significand = 0 then some x
  else if 308 < exponent then none
  else if 0 ≤ exponent then
    let y := x * powerOfTen exponent.toNat
    if Number.isFinite y then some y else none
  else if -308 ≤ exponent then some (x / powerOfTen (-exponent).toNat)
  else if -616 ≤ exponent then some (x / powerOfTen 308 / powerOfTen (-exponent - 308).toNat)
  else some 0

/-- The parts of a written number: its sign, the digits before and behind the point, and a signed
    exponent. -/
structure Numeral where
  negative : Bool
  whole : List Char
  fraction : Option (List Char)
  exponent : Option (Bool × List Char)

/-- The value of a number. Whole numbers that fit 64 bits are integers, except that the negative
    zero is a double, and all others are doubles. An exponent beyond 31 bits counts as infinite. -/
def Numeral.value (n : Numeral) : Source :=
  let (integral, excess) := absorb 0 n.whole
  let signed (x : Float) : Source := .double (if n.negative then -x else x)
  if n.fraction.isNone && n.exponent.isNone && excess.isEmpty then
    if !n.negative then .int integral
    else if 0 < integral ∧ integral ≤ Nat.pow 2 63 then .int (-integral)
    else signed (Number.ofInt integral)
  else
    let fraction := n.fraction.getD []
    let (significand, dropped) := absorb integral fraction
    let places : Int := excess.length - ((fraction.length : Int) - dropped.length)
    let (down, digits) := n.exponent.getD (false, [])
    let shift := Number.ofDigits digits
    if Nat.pow 2 31 ≤ shift then
      if !down && significand ≠ 0 then .unusable else signed 0
    else
      match scale? significand (if down then places - shift else places + shift) with
      | some x => signed x
      | none => .unusable

/-- The digits at the front of a text, of which there must be one. -/
def takeDigits? (cs : List Char) : Option (List Char × List Char) :=
  let digits := cs.takeWhile Char.isDigit
  if digits.isEmpty then none else some (digits, cs.dropWhile Char.isDigit)

/-- The exponent at the front of a text, if there is one. -/
def takeExponent? : List Char → Option (Option (Bool × List Char) × List Char)
  | [] => some (none, [])
  | c :: rest =>
    if c = 'e' || c = 'E' then do
      let (down, rest) := Number.splitSign rest
      let (digits, rest) ← takeDigits? rest
      pure (some (down, digits), rest)
    else some (none, c :: rest)

/-- The number at the front of a text. A whole part of several digits does not start with zero. -/
def takeNumeral? (cs : List Char) : Option (Numeral × List Char) := do
  let (negative, cs) := match cs with
    | '-' :: rest => (true, rest)
    | other => (false, other)
  let (whole, cs) ← takeDigits? cs
  guard (whole.length = 1 || whole.head? ≠ some '0')
  let (fraction, cs) ← match cs with
    | '.' :: rest => (takeDigits? rest).map fun (digits, rest) => (some digits, rest)
    | other => some (none, other)
  let (exponent, cs) ← takeExponent? cs
  pure (⟨negative, whole, fraction, exponent⟩, cs)

def hexDigit? (c : Char) : Option Nat :=
  if c.isDigit then some (c.toNat - '0'.toNat)
  else if 'a' ≤ c ∧ c ≤ 'f' then some (c.toNat - 'a'.toNat + 10)
  else if 'A' ≤ c ∧ c ≤ 'F' then some (c.toNat - 'A'.toNat + 10)
  else none

/-- The code unit written by four hexadecimal digits. -/
def codeUnit? (a b c d : Char) : Option Nat := do
  pure (((← hexDigit? a) * 16 + (← hexDigit? b)) * 256 + ((← hexDigit? c) * 16 + (← hexDigit? d)))

/-- The character that a letter behind a backslash stands for. -/
def escaped? : Char → Option Char
  | '"' => some '"'
  | '\\' => some '\\'
  | '/' => some '/'
  | 'b' => some '\x08'
  | 'f' => some '\x0c'
  | 'n' => some '\n'
  | 'r' => some '\r'
  | 't' => some '\t'
  | _ => none

def isHighSurrogate (unit : Nat) : Bool := 0xd800 ≤ unit && unit < 0xdc00

def isLowSurrogate (unit : Nat) : Bool := 0xdc00 ≤ unit && unit < 0xe000

/-- The rest of a string behind its opening quote, and the text behind its closing quote. A pending
    high surrogate waits for the low one in the next escape. `done` holds the characters read so
    far, last first, or nothing once a surrogate was left alone. -/
def takeString? (done : Option (List Char)) (pending : Option Nat) :
    List Char → Option (Option String × List Char)
  | [] => none
  | '"' :: rest =>
    let content := if pending.isSome then none else done
    some (content.map fun cs => String.ofList cs.reverse, rest)
  | '\\' :: 'u' :: a :: b :: c :: d :: rest =>
    match codeUnit? a b c d with
    | none => none
    | some unit =>
      match pending with
      | some high =>
        if isLowSurrogate unit then
          let c := Char.ofNat (0x10000 + (high - 0xd800) * 0x400 + (unit - 0xdc00))
          takeString? (done.map (c :: ·)) none rest
        else takeString? none none rest
      | none =>
        if isHighSurrogate unit then takeString? done (some unit) rest
        else if isLowSurrogate unit then takeString? none none rest
        else takeString? (done.map (Char.ofNat unit :: ·)) none rest
  | '\\' :: c :: rest =>
    match escaped? c with
    | none => none
    | some e =>
      takeString? (if pending.isSome then none else done.map (e :: ·)) none rest
  | c :: rest =>
    if c.toNat < 0x20 then none
    else takeString? (if pending.isSome then none else done.map (c :: ·)) none rest

def isSpace (c : Char) : Bool :=
  c = ' ' || c = '\t' || c = '\n' || c = '\r'

/-- The token at the front of a text that does not start with space. -/
def takeToken? : List Char → Option (Token × List Char)
  | [] => none
  | '[' :: rest => some (.openArray, rest)
  | ']' :: rest => some (.closeArray, rest)
  | '{' :: rest => some (.openObject, rest)
  | '}' :: rest => some (.closeObject, rest)
  | ',' :: rest => some (.comma, rest)
  | ':' :: rest => some (.colon, rest)
  | '"' :: rest => (takeString? (some []) none rest).map fun (s, rest) => (.string s, rest)
  | 'n' :: 'u' :: 'l' :: 'l' :: rest => some (.literal .null, rest)
  | 't' :: 'r' :: 'u' :: 'e' :: rest => some (.literal (.bool true), rest)
  | 'f' :: 'a' :: 'l' :: 's' :: 'e' :: rest => some (.literal (.bool false), rest)
  | cs => (takeNumeral? cs).map fun (n, rest) => (.literal n.value, rest)

/-- The tokens of a text, last first. A token takes at least one character, so the number of
    characters bounds the number of steps. -/
def tokensFrom? (found : List Token) : Nat → List Char → Option (List Token)
  | 0, _ => none
  | fuel + 1, cs =>
    match cs.dropWhile isSpace with
    | [] => some found
    | rest =>
      match takeToken? rest with
      | none => none
      | some (token, rest) => tokensFrom? (token :: found) fuel rest

/-- The tokens of a text in order. -/
def tokens? (cs : List Char) : Option (List Token) :=
  (tokensFrom? [] (cs.length + 1) cs).map List.reverse

end SpriteStage.Json
