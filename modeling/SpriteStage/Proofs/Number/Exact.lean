import Mathlib.Analysis.SpecialFunctions.Complex.Arg
import SpriteStage.Engine.Task
import SpriteStage.Number.Scalar
import SpriteStage.Proofs.Number.Ceil

namespace SpriteStage

/-- The number that a double is. NaN and the infinities, which are no numbers, count as zero. -/
noncomputable def Number.toReal (x : Float) : ℝ :=
  match value x with
  | .finite b => b.toRat
  | _ => 0

noncomputable instance : Scalar ℝ where
  ofFloat := Number.toReal
  ofMillis ms := ms
  less x y := decide (x < y)
  degrees second first := Complex.arg ⟨first, second⟩ * (180 / Real.pi)

namespace Number

/-- A double whose mantissa is an integer moved to the left counts as that integer. -/
theorem toReal_of_shifted {x : Float} {n k : Nat} (hvalue : value x = .finite ⟨false, n * 2 ^ k, -k⟩) :
    toReal x = n := by
  have hrat : Binary.toRat ⟨false, n * 2 ^ k, -k⟩ = n := by
    simp [Binary.toRat]
  rw [toReal, hvalue]
  simp only [hrat, Rat.cast_natCast]

theorem toReal_one : toReal 1 = 1 := by
  rw [toReal_of_shifted (n := 1) (k := 52) rfl, Nat.cast_one]

/-- A finite double that is positive counts as a positive number. -/
theorem toReal_pos {x : Float} (hfinite : isFinite x = true) (hpositive : isPositive x = true) :
    0 < toReal x := by
  unfold isFinite at hfinite
  split at hfinite
  case h_1 b hvalue =>
    simp only [isPositive, hvalue, Bool.and_eq_true, Bool.not_eq_true', bne_iff_ne] at hpositive
    obtain ⟨hsign, hmantissa⟩ := hpositive
    have hpos : 0 < b.toRat := by
      simp only [Binary.toRat, hsign, Bool.false_eq_true, if_false]
      have hcast : (0 : ℚ) < b.mantissa := Nat.cast_pos.2 (Nat.pos_of_ne_zero hmantissa)
      positivity
    simp only [toReal, hvalue]
    exact_mod_cast hpos
  case h_2 => cases hfinite

end Number

/-- Scalars that tell exactly whether some milliseconds are less than a duration. -/
def Scalar.IsExact (α : Type) [Scalar α] : Prop :=
  ∀ (elapsed : Nat) (durationMs : Float),
    (Number.isFinite durationMs && Number.isPositive durationMs) = true →
    (Scalar.less (Scalar.ofMillis elapsed / Scalar.ofFloat durationMs : α) (Scalar.ofFloat 1) = true ↔
      (elapsed : ℝ) < Number.toReal durationMs)

/-- Real numbers tell exactly whether a duration has passed. -/
theorem Scalar.isExact_real : Scalar.IsExact ℝ := by
  intro elapsed durationMs hlasts
  obtain ⟨hfinite, hpositive⟩ := Bool.and_eq_true_iff.1 hlasts
  rw [← div_lt_one (Number.toReal_pos hfinite hpositive), ← Number.toReal_one]
  exact decide_eq_true_iff

/-- A glide is over if its duration is not a positive number, and else once the part of it that is over is
    not below one. -/
theorem glideFraction?_eq_none_iff {α : Type} [Scalar α] (durationMs : Float) (elapsed : Nat) :
    (glideFraction? durationMs elapsed : Option α) = none ↔
      ((Number.isFinite durationMs && Number.isPositive durationMs) = true →
        Scalar.less (Scalar.ofMillis elapsed / Scalar.ofFloat durationMs : α) (Scalar.ofFloat 1) = false) := by
  unfold glideFraction?
  split
  case isTrue hlasts => simp [hlasts]
  case isFalse hnot => simp [hnot]

/-- In exact arithmetic a glide is under way until its duration has passed. -/
theorem glideFraction?_eq (durationMs : Float) (elapsed : Nat) :
    (glideFraction? durationMs elapsed : Option ℝ) =
      if (Number.isFinite durationMs && Number.isPositive durationMs) = true ∧
          (elapsed : ℝ) < Number.toReal durationMs then
        some (elapsed / Number.toReal durationMs)
      else none := by
  unfold glideFraction?
  by_cases hlasts : (Number.isFinite durationMs && Number.isPositive durationMs) = true
  · rw [if_pos hlasts]
    exact if_congr ((Scalar.isExact_real elapsed durationMs hlasts).trans (and_iff_right hlasts).symm) rfl rfl
  · rw [if_neg hlasts, if_neg fun h => hlasts h.1]

end SpriteStage
