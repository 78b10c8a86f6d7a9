namespace SpriteStage.Number

/-- The finite value `mantissa * 2 ^ exponent`, negated when `negative` is set. Zero keeps its
    sign. -/
structure Binary where
  negative : Bool
  mantissa : Nat
  exponent : Int
deriving DecidableEq, Repr

/-- What a double stands for. -/
inductive Value where
  | nan
  | infinite (negative : Bool)
  | finite (value : Binary)
deriving DecidableEq, Repr

/-- The value of a double with the given bits: a sign bit, eleven bits of exponent and fifty-two
    bits of fraction. -/
def valueOfBits (bits : Nat) : Value :=
  let negative := bits / Nat.pow 2 63 % 2 == 1
  let scale : Nat := bits / Nat.pow 2 52 % Nat.pow 2 11
  let fraction : Nat := bits % Nat.pow 2 52
  if scale = 2047 then
    if fraction = 0 then .infinite negative else .nan
  else if scale = 0 then
    .finite ⟨negative, fraction, -1074⟩
  else
    .finite ⟨negative, fraction + Nat.pow 2 52, (scale : Int) - 1075⟩

def value (x : Float) : Value :=
  valueOfBits x.toBits.toNat

def isNaN (x : Float) : Bool :=
  value x == .nan

def isFinite (x : Float) : Bool :=
  match value x with
  | .finite _ => true
  | _ => false

namespace Binary

/-- The value as a multiple of `2 ^ unit`, exact when `unit` is at most the exponent. -/
def scaled (b : Binary) (unit : Int) : Int :=
  let magnitude : Int := b.mantissa * Int.pow 2 (b.exponent - unit).toNat
  if b.negative then -magnitude else magnitude

/-- Whether the first value is below the second. -/
def less (a b : Binary) : Bool :=
  let unit := min a.exponent b.exponent
  a.scaled unit < b.scaled unit

/-- The least natural number that is not below the value; zero for negative values. -/
def ceil (b : Binary) : Nat :=
  if b.negative then 0
  else if 0 ≤ b.exponent then b.mantissa * Nat.pow 2 b.exponent.toNat
  else
    let unit := Nat.pow 2 (-b.exponent).toNat
    (b.mantissa + (unit - 1)) / unit

end Binary

/-- The quotient rounded to the nearest natural number, a half to the even neighbour. -/
def roundQuotient (numerator denominator : Nat) : Nat :=
  let whole := numerator / denominator
  let twice := 2 * (numerator % denominator)
  if twice < denominator then whole
  else if twice = denominator then whole + whole % 2
  else whole + 1

/-- The magnitude times `factor`, rounded to the nearest natural number with a half going to the
    even neighbour. -/
def Binary.roundTimes (b : Binary) (factor : Nat) : Nat :=
  roundQuotient (b.mantissa * factor * Nat.pow 2 b.exponent.toNat) (Nat.pow 2 (-b.exponent).toNat)

/-- The order of doubles as numbers: infinities lie outside the finite values, the two zeros are
    equal and nothing is below or above NaN. -/
def less (x y : Float) : Bool :=
  match value x, value y with
  | .nan, _ => false
  | _, .nan => false
  | .infinite true, .infinite true => false
  | .infinite true, _ => true
  | _, .infinite false => !(value x == .infinite false)
  | .infinite false, _ => false
  | _, .infinite true => false
  | .finite a, .finite b => a.less b

/-- Whether the number is above zero; NaN is not. -/
def isPositive (x : Float) : Bool :=
  match value x with
  | .nan => false
  | .infinite negative => !negative
  | .finite b => !b.negative && b.mantissa != 0

/-- Whether the number is one of the two zeros. -/
def isZero (x : Float) : Bool :=
  match value x with
  | .finite b => b.mantissa == 0
  | _ => false

/-- The double nearest to an integer. -/
def ofInt (i : Int) : Float :=
  let magnitude := Float.ofScientific i.natAbs false 0
  if i < 0 then -magnitude else magnitude

/-- The double with the value `mantissa / 2 ^ places`, rounded to nearest. A power of two in the
    denominator becomes a power of ten by multiplying with the same power of five. -/
def ofBinaryFraction (mantissa places : Nat) : Float :=
  Float.ofScientific (mantissa * Nat.pow 5 places) true places

def nan : Float := Float.ofBits 0x7ff8000000000000

def infinity : Float := Float.ofBits 0x7ff0000000000000

end SpriteStage.Number
