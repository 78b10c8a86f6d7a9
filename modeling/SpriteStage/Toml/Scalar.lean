import SpriteStage.Toml.Text

namespace SpriteStage.Toml

/-- The digits of a number without the underscores between them; an underscore stands between two
    digits only. -/
def digits? (isDigit : Char → Bool) : List Char → Option (List Char)
  | [] => none
  | [c] => if isDigit c then some [c] else none
  | c :: '_' :: rest => if isDigit c then (digits? isDigit rest).map (c :: ·) else none
  | c :: rest => if isDigit c then (digits? isDigit rest).map (c :: ·) else none

/-- The decimal digits of a number, of which the first is zero only if it is the only one. -/
def decimalDigits? (cs : List Char) : Option (List Char) :=
  (digits? Char.isDigit cs).filter fun ds => ds.length = 1 || ds.head? ≠ some '0'

/-- An integer of 64 bits. -/
def bounded? (i : Int) : Option Int :=
  if -Int.pow 2 63 ≤ i ∧ i < Int.pow 2 63 then some i else none

/-- A number in a base that is a power of two. -/
def inBase? (base : Nat) (cs : List Char) : Option Int := do
  let isDigit (c : Char) : Bool := (Json.hexDigit? c).any (· < base)
  let ds ← digits? isDigit cs
  let value := ds.foldl (fun total c => base * total + (Json.hexDigit? c).getD 0) 0
  bounded? value

def integer? (cs : List Char) : Option Int :=
  match cs with
  | '0' :: 'x' :: rest => inBase? 16 rest
  | '0' :: 'o' :: rest => inBase? 8 rest
  | '0' :: 'b' :: rest => inBase? 2 rest
  | cs => do
    let (negative, rest) := Number.splitSign cs
    let magnitude : Int := Number.ofDigits (← decimalDigits? rest)
    bounded? (if negative then -magnitude else magnitude)

/-- The exponent of a float with its letter, without underscores. -/
def exponent? : List Char → Option (List Char)
  | [] => some []
  | c :: rest =>
    if c = 'e' || c = 'E' then
      let (negative, digits) := Number.splitSign rest
      (digits? Char.isDigit digits).map fun ds => 'e' :: (if negative then '-' :: ds else ds)
    else none

def isExponentMark (c : Char) : Bool := c = 'e' || c = 'E'

/-- A float with a fraction, an exponent or both. Positive overflow is refused. -/
def decimalFloat? (cs : List Char) : Option Float := do
  let (negative, body) := Number.splitSign cs
  let whole := body.takeWhile fun c => c ≠ '.' && !isExponentMark c
  let behind := body.drop whole.length
  let whole ← decimalDigits? whole
  let (fraction, behind) ← match behind with
    | '.' :: rest =>
      let fraction := rest.takeWhile fun c => !isExponentMark c
      (digits? Char.isDigit fraction).map fun ds => ('.' :: ds, rest.drop fraction.length)
    | rest => if rest.isEmpty then none else some ([], rest)
  let magnitude ← Number.read? (whole ++ fraction ++ (← exponent? behind))
  let x := if negative then -magnitude else magnitude
  guard (Number.value x ≠ .infinite false)
  pure x

def float? (cs : List Char) : Option Float :=
  let (negative, body) := Number.splitSign cs
  let special (x : Float) : Option Float := some (if negative then -x else x)
  if body = ['i', 'n', 'f'] then special Number.infinity
  else if body = ['n', 'a', 'n'] then special Number.nan
  else decimalFloat? cs

/-- A number of exactly `count` digits between two bounds. -/
def fixed? (count low high : Nat) (cs : List Char) : Option (Nat × List Char) :=
  let ds := cs.take count
  let n := Number.ofDigits ds
  if ds.length = count && ds.all Char.isDigit && low ≤ n && n ≤ high then some (n, cs.drop count)
  else none

def expect? (c : Char) : List Char → Option (List Char)
  | d :: rest => if d = c then some rest else none
  | [] => none

def daysInMonth (year month : Nat) : Nat :=
  if month = 2 then
    if year % 4 = 0 ∧ (year % 100 ≠ 0 ∨ year % 400 = 0) then 29 else 28
  else if month = 4 ∨ month = 6 ∨ month = 9 ∨ month = 11 then 30
  else 31

/-- The text behind a date. -/
def date? (cs : List Char) : Option (List Char) := do
  let (year, cs) ← fixed? 4 0 9999 cs
  let (month, cs) ← fixed? 2 1 12 (← expect? '-' cs)
  let (_, cs) ← fixed? 2 1 (daysInMonth year month) (← expect? '-' cs)
  pure cs

/-- The text behind a time of day, which may have a fraction of a second and a leap second. -/
def time? (cs : List Char) : Option (List Char) := do
  let (_, cs) ← fixed? 2 0 23 cs
  let (_, cs) ← fixed? 2 0 59 (← expect? ':' cs)
  let (_, cs) ← fixed? 2 0 60 (← expect? ':' cs)
  match cs with
  | '.' :: rest =>
    let rest' := rest.dropWhile Char.isDigit
    if rest'.length < rest.length then some rest' else none
  | cs => some cs

/-- The text behind the offset of a time zone, if there is one. -/
def offset? : List Char → Option (List Char)
  | [] => some []
  | c :: rest =>
    if c = 'Z' || c = 'z' then some rest
    else if c = '+' || c = '-' then do
      let (_, rest) ← fixed? 2 0 23 rest
      let (_, rest) ← fixed? 2 0 59 (← expect? ':' rest)
      pure rest
    else some (c :: rest)

/-- The word is a date, a time, or a date and a time with a letter between them. -/
def isDateTime (word : List Char) : Bool :=
  match date? word with
  | some [] => true
  | some (c :: rest) => (c = 'T' || c = 't') && ((time? rest).bind offset?) = some []
  | none => time? word = some []

def isWordChar (c : Char) : Bool :=
  c.isAlphanum || c = '+' || c = '-' || c = '.' || c = '_' || c = ':'

/-- The value of a word. -/
def word? (word : List Char) : Option Source :=
  if word = ['t', 'r', 'u', 'e'] then some (.bool true)
  else if word = ['f', 'a', 'l', 's', 'e'] then some (.bool false)
  else if isDateTime word then some .unusable
  else
    match integer? word with
    | some i => some (.int i)
    | none => (float? word).map .double

/-- A date and a time of day may also have a space between them. -/
def spacedTime? (word : List Char) : List Char → Option (List Char)
  | ' ' :: rest =>
    let time := rest.takeWhile isWordChar
    if date? word = some [] && ((time? time).bind offset?) = some [] then
      some (rest.drop time.length)
    else none
  | _ => none

/-- The number, truth value or date at the front of a text. -/
def scalar? (cs : List Char) : Option (Source × List Char) :=
  let word := cs.takeWhile isWordChar
  let rest := cs.drop word.length
  match spacedTime? word rest with
  | some rest => some (.unusable, rest)
  | none => (word? word).map fun value => (value, rest)

end SpriteStage.Toml
