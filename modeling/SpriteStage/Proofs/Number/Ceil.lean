import Mathlib.Data.Rat.Floor
import SpriteStage.Number.Binary

namespace SpriteStage.Number.Binary

/-- The exact value as a fraction. -/
def toRat (b : Binary) : ℚ :=
  let magnitude : ℚ := b.mantissa * 2 ^ b.exponent
  if b.negative then -magnitude else magnitude

/-- Rounding a quotient up is dividing the numerator that was raised by one less than
    the divisor. -/
private theorem natCeil_div (m unit : Nat) (hunit : 0 < unit) :
    ⌈(m : ℚ) / unit⌉₊ = (m + (unit - 1)) / unit := by
  have hpos : (0 : ℚ) < unit := by exact_mod_cast hunit
  apply eq_of_forall_ge_iff
  intro n
  have hleft : ⌈(m : ℚ) / unit⌉₊ ≤ n ↔ m ≤ n * unit := by
    rw [Nat.ceil_le, div_le_iff₀ hpos]
    exact_mod_cast Iff.rfl
  have hright : (m + (unit - 1)) / unit ≤ n ↔ m + (unit - 1) < (n + 1) * unit := by
    rw [← Nat.lt_succ_iff, Nat.div_lt_iff_lt_mul hunit]
  rw [hleft, hright, Nat.succ_mul]
  omega

/-- Rounding a finite double up gives what rounding up its fraction gives. -/
theorem ceil_eq_natCeil (b : Binary) : b.ceil = ⌈b.toRat⌉₊ := by
  obtain ⟨negative, m, e⟩ := b
  cases negative with
  | true =>
    have hle : (toRat ⟨true, m, e⟩ : ℚ) ≤ 0 := by
      simp only [toRat, if_true, neg_nonpos]
      exact mul_nonneg (Nat.cast_nonneg m) (zpow_nonneg (by norm_num) e)
    rw [Nat.ceil_eq_zero.2 hle]
    rfl
  | false =>
    simp only [ceil, toRat, Bool.false_eq_true, if_false]
    split
    case isTrue he =>
      have hpower : (m : ℚ) * 2 ^ e = ((m * 2 ^ e.toNat : Nat) : ℚ) := by
        rw [Nat.cast_mul, Nat.cast_pow, ← zpow_natCast, Int.toNat_of_nonneg he]
        rfl
      rw [hpower, Nat.ceil_natCast]
      rfl
    case isFalse he =>
      have hpower : (m : ℚ) * 2 ^ e = (m : ℚ) / (2 ^ (-e).toNat : Nat) := by
        rw [Nat.cast_pow, ← zpow_natCast, Int.toNat_of_nonneg (by omega), zpow_neg, div_inv_eq_mul]
        rfl
      rw [hpower, natCeil_div _ _ (Nat.two_pow_pos _)]
      rfl

end SpriteStage.Number.Binary
