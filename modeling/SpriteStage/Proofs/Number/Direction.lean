import SpriteStage.Number.Scalar
import SpriteStage.Proofs.Number.Rounding

namespace SpriteStage.Number

theorem denotes_fullTurn : Denotes 360 360 :=
  ⟨⟨false, 360 * 2 ^ 44, -44⟩, rfl, by norm_num [Binary.toRat]⟩

/-- Half of the circle, as a double has it. -/
def halfCircle : ℚ := 7074237752028440 / 2 ^ 51

/-- The size of one radian in degrees, as a double has it. -/
def radian : ℚ := 8063664102031864 / 2 ^ 47

/-- The constant for half a turn stands for the fraction that bounds all angles. -/
theorem denotes_straightAngle : Denotes straightAngle.near halfCircle :=
  ⟨⟨false, 7074237752028440, -51⟩, rfl, by norm_num [Binary.toRat, halfCircle]⟩

theorem denotes_degreesPerRadian : Denotes degreesPerRadian radian :=
  ⟨⟨false, 8063664102031864, -47⟩, rfl, by norm_num [Binary.toRat, radian]⟩

theorem halfCircle_nonneg : 0 ≤ halfCircle := by norm_num [halfCircle]

theorem radian_pos : 0 < radian := by norm_num [radian]

/-- One of the two was rounded down and the other up, and their product does not exceed half a turn. -/
theorem halfCircle_mul_radian_le : halfCircle * radian ≤ 180 := by norm_num [halfCircle, radian]

/-- A magnitude in the range of the arc tangent is a number between zero and half the circle. -/
theorem denotes_upToStraight (magnitude : Float) :
    ∃ a, Denotes (upToStraight magnitude) a ∧ 0 ≤ a ∧ a ≤ halfCircle := by
  unfold upToStraight
  split
  case isTrue hbetween =>
    rw [Bool.and_eq_true, decide_eq_true_iff, decide_eq_true_iff] at hbetween
    obtain ⟨hlow, hhigh⟩ := hbetween
    obtain ⟨a, ha⟩ := denotes_zero.of_between denotes_straightAngle hlow hhigh
    exact ⟨a, ha, (denotes_zero.le_iff ha).1 hlow, (ha.le_iff denotes_straightAngle).1 hhigh⟩
  case isFalse => exact ⟨_, denotes_straightAngle, halfCircle_nonneg, le_rfl⟩

/-- The angle of a vector of finite doubles is a number of half the circle at most. -/
theorem denotes_angle {second first : Float} (hsecond : isFinite second = true) (hfirst : isFinite first = true) :
    ∃ a, Denotes (angle second first) a ∧ |a| ≤ halfCircle := by
  obtain ⟨-, y, hy, -⟩ := denotes_of_isFinite hsecond
  obtain ⟨-, x, hx, -⟩ := denotes_of_isFinite hfirst
  obtain ⟨magnitude, hangle⟩ : ∃ magnitude, angle second first =
      if y.negative then -upToStraight magnitude else upToStraight magnitude := by
    simp only [angle, hy, hx]
    exact ⟨_, rfl⟩
  obtain ⟨a, ha, hnonneg, hle⟩ := denotes_upToStraight magnitude
  rw [hangle]
  split
  case isTrue => exact ⟨-a, ha.neg, by rwa [abs_neg, abs_of_nonneg hnonneg]⟩
  case isFalse => exact ⟨a, ha, by rwa [abs_of_nonneg hnonneg]⟩

/-- The direction of a vector lies within half a turn of the positive first axis. -/
theorem denotes_degrees {second first : Float} (hsecond : isFinite second = true) (hfirst : isFinite first = true) :
    ∃ d, Denotes (degrees second first) d ∧ |d| ≤ 180 := by
  obtain ⟨a, ha, hle⟩ := denotes_angle hsecond hfirst
  have hproduct : |a * radian| ≤ 180 := by
    rw [abs_mul, abs_of_pos radian_pos]
    exact (mul_le_mul_of_nonneg_right hle radian_pos.le).trans halfCircle_mul_radian_le
  have hsmall : |a * radian| < 2 ^ 53 := by linarith
  have hunit := unit_nonpos hsmall
  obtain ⟨d, hd, hrounded⟩ := ha.mul denotes_degreesPerRadian (by omega)
  exact ⟨d, hd, by exact_mod_cast hrounded.abs_le (n := 180) hsmall (by exact_mod_cast hproduct)⟩

/-- Between 256 and 512 doubles lie this far apart. -/
theorem unit_of_between {q : ℚ} (hlow : 256 ≤ q) (hhigh : q < 512) : unit q = -44 := by
  have hlog : Int.log 2 |q| = 8 := by
    rw [abs_of_nonneg (by linarith)]
    apply log_two_eq
    · norm_num
      exact hlow
    · norm_num
      exact hhigh
  rw [unit, hlog]
  rfl

/-- Only what is less than half a last place below the full turn, or just that, is rounded to it. -/
theorem Rounded.lt_fullTurn_iff {q r : ℚ} (h : Rounded q r) (hlow : 256 ≤ q) (hhigh : q < 360) :
    r < 360 ↔ q < 360 - 1 / 2 ^ 45 := by
  have hnonneg := h.nonneg (by linarith)
  obtain ⟨-, k, hr, hk⟩ := h
  rw [unit_of_between hlow (by linarith), abs_of_nonneg hnonneg] at hr
  rw [unit_of_between hlow (by linarith), abs_of_nonneg (by linarith)] at hk
  have hstep : (2 : ℚ) ^ (-44 : ℤ) = 1 / 2 ^ 44 := by norm_num
  rw [hstep] at hr hk
  have hturn : r < 360 ↔ k < 360 * 2 ^ 44 := by
    rw [hr, mul_one_div, div_lt_iff₀ (by norm_num)]
    exact_mod_cast Iff.rfl
  rw [hturn]
  constructor
  · intro hlt
    have hle : (k : ℚ) + 1 ≤ 360 * 2 ^ 44 := by exact_mod_cast hlt
    have hhalf := hk.high
    refine lt_of_le_of_ne (by linarith) fun htie => ?_
    -- a half goes to the even neighbour, which is the full turn
    have hlast : (k : ℚ) + 1 = 360 * 2 ^ 44 := le_antisymm hle (by linarith)
    have hodd : k + 1 = 360 * 2 ^ 44 := by exact_mod_cast hlast
    have heven := hk.even (Or.inr (by linarith))
    omega
  · intro hlt
    have hhalf := hk.low
    have hcast : (k : ℚ) < (360 * 2 ^ 44 : Nat) := by
      push_cast
      linarith
    exact_mod_cast hcast

/-- A full turn more than a direction below zero. -/
theorem denotes_add_fullTurn {x : Float} {d : ℚ} (hx : Denotes x d) (hlow : -180 ≤ d) (hneg : d < 0) :
    ∃ r, Denotes (x + 360) r ∧ 180 ≤ r ∧ r ≤ 360 ∧ (r < 360 ↔ d < -1 / 2 ^ 45) := by
  have hpos : 0 < d + 360 := by linarith
  have hsmall : |d + 360| < 2 ^ 53 := by
    rw [abs_of_pos hpos]
    linarith
  have hunit := unit_nonpos hsmall
  obtain ⟨r, hr, hrounded⟩ := hx.add denotes_fullTurn hneg.ne (by norm_num) (by omega)
  refine ⟨r, hr, ?_, ?_, ?_⟩
  · exact_mod_cast hrounded.natCast_le (n := 180) hpos hsmall (by push_cast; linarith)
  · exact_mod_cast hrounded.le_natCast (n := 360) hpos hsmall (by push_cast; linarith)
  · rcases le_or_gt 256 (d + 360) with hlarge | hless
    · rw [hrounded.lt_fullTurn_iff hlarge (by linarith)]
      constructor <;> intro hlt <;> linarith
    · have hle := hrounded.le_natCast (n := 256) hpos hsmall (by push_cast; linarith)
      push_cast at hle
      exact iff_of_true (by linarith) (by linarith)

end SpriteStage.Number
