import SpriteStage.Number.Binary

namespace SpriteStage.Number

/-- The positive decimal `coefficient * 10 ^ exponent`. -/
structure Decimal where
  coefficient : Nat
  exponent : Int
deriving DecidableEq, Repr

/-- Where a value goes that lies halfway between two decimals. -/
inductive Tie where
  | toEven
  | up
deriving DecidableEq, Repr

/-- The reals that read back as one double, `[low, high]` over a common denominator, and the double
    itself as `middle`. The ends belong to the interval when `closed` is set. -/
structure Interval where
  low : Nat
  middle : Nat
  high : Nat
  denominator : Nat
  closed : Bool

/-- The interval of the double `mantissa * 2 ^ exponent`. The gap below a power of two is half the
    gap above it, except at the bottom of the range; the ends belong to an even mantissa. -/
def Interval.ofBinary (mantissa : Nat) (exponent : Int) : Interval :=
  let narrow := mantissa = Nat.pow 2 52 ∧ -1074 < exponent
  let unit := Nat.pow 2 (exponent - 2).toNat
  { low := (4 * mantissa - if narrow then 1 else 2) * unit
    middle := 4 * mantissa * unit
    high := (4 * mantissa + 2) * unit
    denominator := Nat.pow 2 (2 - exponent).toNat
    closed := mantissa % 2 = 0 }

/-- The point `coefficient * unit / scale` of a decimal grid lies in the interval. -/
def Interval.contains (i : Interval) (scale unit coefficient : Nat) : Bool :=
  let point := coefficient * unit
  if i.closed then i.low * scale ≤ point && point ≤ i.high * scale
  else i.low * scale < point && point < i.high * scale

/-- The point of the grid with step `10 ^ exponent` that lies in the interval and is nearest to its
    middle. Only the two neighbours of the middle come into question. -/
def Interval.nearest? (i : Interval) (tie : Tie) (exponent : Int) : Option Decimal :=
  let scale := Nat.pow 10 (-exponent).toNat
  let unit := i.denominator * Nat.pow 10 exponent.toNat
  let middle := i.middle * scale
  let below := middle / unit
  let twice := 2 * (middle % unit)
  let upper := unit < twice || (unit = twice && (tie = .up || below % 2 = 1))
  let near := if upper then below + 1 else below
  let far := if upper then below else below + 1
  if i.contains scale unit near then some ⟨near, exponent⟩
  else if i.contains scale unit far then some ⟨far, exponent⟩
  else none

/-- The exponent of the leading digit of the middle of the interval. -/
def Interval.leading (i : Interval) : Int :=
  let whole := i.middle / i.denominator
  if 0 < whole then (Nat.toDigits 10 whole).length - 1
  else
    let places := (Nat.toDigits 10 (i.denominator / i.middle)).length
    if i.middle * Nat.pow 10 (places - 1) < i.denominator then -places else 1 - (places : Int)

/-- The decimal without zeros at the end of its coefficient; `fuel` bounds how many are dropped. -/
def Decimal.trimmed : Nat → Decimal → Decimal
  | 0, d => d
  | fuel + 1, d =>
    if d.coefficient % 10 = 0 then trimmed fuel ⟨d.coefficient / 10, d.exponent + 1⟩ else d

/-- The decimal with the fewest digits that reads back as the positive double
    `mantissa * 2 ^ exponent`, the nearest to it if there are several. Seventeen digits are always
    enough. -/
def shortest (tie : Tie) (mantissa : Nat) (exponent : Int) : Decimal :=
  let interval := Interval.ofBinary mantissa exponent
  let leading := interval.leading
  let found := (List.range 17).findSome? fun more : Nat =>
    interval.nearest? tie (leading - more)
  (found.getD ⟨0, 0⟩).trimmed 18

/-- How a number is laid out as text. -/
structure Layout where
  /-- The exponents of the leading digit that are written without an exponent, if not all are. -/
  plain : Option (Int × Int)
  /-- Whether a whole number keeps a zero behind the point. -/
  point : Bool
  tie : Tie

def Decimal.digits (d : Decimal) : List Char :=
  Nat.toDigits 10 d.coefficient

/-- The decimal without an exponent. -/
def Decimal.plainText (point : Bool) (d : Decimal) : List Char :=
  let digits := d.digits
  let before := digits.length + d.exponent
  if 0 ≤ d.exponent then
    digits ++ List.replicate d.exponent.toNat '0' ++ if point then ['.', '0'] else []
  else if 0 < before then
    digits.take before.toNat ++ '.' :: digits.drop before.toNat
  else
    '0' :: '.' :: List.replicate (-before).toNat '0' ++ digits

/-- The decimal with one digit before the point and a signed exponent. -/
def Decimal.scientificText (d : Decimal) : List Char :=
  let digits := d.digits
  let leading := digits.length - 1 + d.exponent
  let tail := digits.drop 1
  let sign := if leading < 0 then '-' else '+'
  digits.take 1 ++ (if tail.isEmpty then [] else '.' :: tail)
    ++ 'e' :: sign :: Nat.toDigits 10 leading.natAbs

def Layout.magnitude (layout : Layout) (d : Decimal) : List Char :=
  let leading := d.digits.length - 1 + d.exponent
  match layout.plain with
  | none => d.plainText layout.point
  | some (low, high) =>
    if low ≤ leading ∧ leading ≤ high then d.plainText layout.point else d.scientificText

/-- The text of a double. -/
def Layout.text (layout : Layout) (x : Float) : String :=
  match value x with
  | .nan => "NaN"
  | .infinite negative => if negative then "-inf" else "inf"
  | .finite b =>
    let magnitude :=
      if b.mantissa = 0 then if layout.point then ['0', '.', '0'] else ['0']
      else layout.magnitude (shortest layout.tie b.mantissa b.exponent)
    String.ofList (if b.negative then '-' :: magnitude else magnitude)

/-- Messages write numbers without an exponent and whole numbers without a point; a half goes up. -/
def messageLayout : Layout :=
  { plain := none, point := false, tie := .up }

end SpriteStage.Number
