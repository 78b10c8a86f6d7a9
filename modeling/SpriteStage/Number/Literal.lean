import SpriteStage.Number.Binary
import SpriteStage.Text.Blank

namespace SpriteStage.Number

/-- A leading sign and the characters behind it; without a sign the number is not negative. -/
def splitSign : List Char → Bool × List Char
  | '+' :: rest => (false, rest)
  | '-' :: rest => (true, rest)
  | rest => (false, rest)

/-- The number that a list of digits writes, most significant digit first. -/
def ofDigits (digits : List Char) : Nat :=
  digits.foldl (fun total c => 10 * total + (c.toNat - '0'.toNat)) 0

/-- The double nearest to `coefficient * 10 ^ exponent`. Values beyond the range of doubles are
    recognised by the place of their leading digit, before any power is computed. -/
def ofDecimal (coefficient : Nat) (exponent : Int) : Float :=
  let places := (Nat.toDigits 10 coefficient).length + exponent
  if coefficient = 0 || places < -330 then 0
  else if 310 < places then infinity
  else Float.ofScientific coefficient (exponent < 0) exponent.natAbs

/-- A number of at least one digit without a sign. -/
def readDigits? (cs : List Char) : Option Nat :=
  if !cs.isEmpty && cs.all Char.isDigit then some (ofDigits cs) else none

/-- The exponent that ends a number; nothing at all stands for zero. -/
def readExponent? : List Char → Option Int
  | [] => some 0
  | c :: rest =>
    if c = 'e' || c = 'E' then
      let (negative, digits) := splitSign rest
      (readDigits? digits).map fun n => if negative then -(n : Int) else n
    else none

/-- Digits, a point and digits, where one of the two digit groups may be missing, then an
    exponent. -/
def readMagnitude? (cs : List Char) : Option Float :=
  let whole := cs.takeWhile Char.isDigit
  let behind := cs.dropWhile Char.isDigit
  let (fraction, rest) := match behind with
    | '.' :: more => (more.takeWhile Char.isDigit, more.dropWhile Char.isDigit)
    | other => ([], other)
  if whole.isEmpty && fraction.isEmpty then none
  else (readExponent? rest).map fun exponent =>
    ofDecimal (ofDigits (whole ++ fraction)) (exponent - fraction.length)

/-- The double that a text writes; a number too large for a double is infinite. -/
def read? (cs : List Char) : Option Float :=
  let (negative, rest) := splitSign cs
  let word := Text.foldCase (String.ofList rest)
  let magnitude? :=
    if word = "inf" || word = "infinity" then some infinity
    else if word = "nan" then some nan
    else readMagnitude? rest
  magnitude?.map fun x => if negative then -x else x

/-- A whole number below `limit` with an optional plus sign. -/
def readNatural? (limit : Nat) (cs : List Char) : Option Nat :=
  let digits := match cs with
    | '+' :: rest => rest
    | other => other
  (readDigits? digits).filter (· < limit)

end SpriteStage.Number
