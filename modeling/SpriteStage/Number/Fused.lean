import SpriteStage.Number.Binary

namespace SpriteStage.Number

namespace Binary

/-- In units of its own last place a double is its mantissa with the sign. -/
theorem scaled_exponent (b : Binary) :
    b.scaled b.exponent = if b.negative = true then -(b.mantissa : Int) else b.mantissa := by
  have hpower : Int.pow 2 (b.exponent - b.exponent).toNat = 1 := by
    rw [Int.sub_self]
    rfl
  rw [scaled, hpower, Int.mul_one]

/-- The value `steps * 2 ^ unit`; a zero has the given sign. -/
def ofSteps (steps : Int) (zeroNegative : Bool) (unit : Int) : Binary :=
  ⟨if steps = 0 then zeroNegative else decide (steps < 0), steps.natAbs, unit⟩

/-- A number that was put together from steps of a unit has as many steps of it. -/
theorem scaled_ofSteps (steps : Int) (zeroNegative : Bool) (unit : Int) :
    (ofSteps steps zeroNegative unit).scaled unit = steps := by
  have hscaled := scaled_exponent (ofSteps steps zeroNegative unit)
  rw [show (ofSteps steps zeroNegative unit).exponent = unit from rfl] at hscaled
  rw [hscaled, ofSteps]
  by_cases hzero : steps = 0
  · subst hzero
    cases zeroNegative <;> rfl
  · by_cases hbelow : steps < 0
    · simp only [hzero, hbelow, if_false, if_true, decide_true]
      omega
    · simp only [hzero, hbelow, if_false, decide_false, Bool.false_eq_true]
      omega

/-- The exact product. -/
def mul (a b : Binary) : Binary :=
  ⟨a.negative != b.negative, a.mantissa * b.mantissa, a.exponent + b.exponent⟩

/-- The product of two values, each in units of its own last place, is that of the two integers. -/
theorem scaled_mul (a b : Binary) :
    (a.mul b).scaled (a.exponent + b.exponent) = a.scaled a.exponent * b.scaled b.exponent := by
  have hproduct := scaled_exponent (a.mul b)
  rw [show (a.mul b).exponent = a.exponent + b.exponent from rfl] at hproduct
  rw [hproduct, scaled_exponent a, scaled_exponent b]
  obtain ⟨aNegative, m, e⟩ := a
  obtain ⟨bNegative, n, f⟩ := b
  cases aNegative <;> cases bNegative
  · exact Int.natCast_mul m n
  · exact (congrArg Neg.neg (Int.natCast_mul m n)).trans (Int.mul_neg _ _).symm
  · exact (congrArg Neg.neg (Int.natCast_mul m n)).trans (Int.neg_mul _ _).symm
  · exact (Int.natCast_mul m n).trans (Int.neg_mul_neg _ _).symm

/-- The exact sum. A zero sum is negative only when both terms are. -/
def add (a b : Binary) : Binary :=
  let unit := min a.exponent b.exponent
  ofSteps (a.scaled unit + b.scaled unit) (a.negative && b.negative) unit

/-- In units of the finer of the two last places the sum is that of the two integers. -/
theorem scaled_add (a b : Binary) :
    (a.add b).scaled (min a.exponent b.exponent) =
      a.scaled (min a.exponent b.exponent) + b.scaled (min a.exponent b.exponent) :=
  scaled_ofSteps _ _ _

/-- The nearest double. -/
def round (b : Binary) : Float :=
  let magnitude := ofBinaryFraction (b.mantissa * Nat.pow 2 b.exponent.toNat) (-b.exponent).toNat
  if b.negative then -magnitude else magnitude

end Binary

/-- The double nearest to `x * y + z`: the product is not rounded before the sum. -/
def multiplyAdd (x y z : Float) : Float :=
  match value x, value y, value z with
  | .finite a, .finite b, .finite c => ((a.mul b).add c).round
  | .finite _, .finite _, _ => z
  | _, _, _ => x * y + z

/-- A polynomial in `x`, its coefficients from the constant term on, with one rounding for each
    coefficient. -/
def polynomial (x : Float) : List Float → Float
  | [] => 0
  | [coefficient] => coefficient
  | coefficient :: higher => multiplyAdd (polynomial x higher) x coefficient

end SpriteStage.Number
