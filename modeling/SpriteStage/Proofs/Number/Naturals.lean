import Mathlib.Data.ENat.Lattice
import SpriteStage.Proofs.Number.Rounding

namespace SpriteStage.Number

open Float.Model (Format UnpackedFloat)
open Float.Model.UnpackedFloat (Sign)

theorem denotes_one : Denotes 1 1 :=
  ⟨⟨false, 2 ^ 52, -52⟩, rfl, by norm_num [Binary.toRat]⟩

/-- Natural numbers with 53 places are in the range in which rounding is looked at here. -/
theorem abs_natCast_lt {n : Nat} (hn : n < 2 ^ 53) : |(n : ℚ)| < 2 ^ 53 := by
  rw [abs_of_nonneg (Nat.cast_nonneg n)]
  exact_mod_cast hn

/-- Unless it lies among the least doubles, a value has fifty-two places above its last one. -/
theorem two_pow_le_div_unit {q : ℚ} (hpos : 0 < q) (hunit : -1074 < unit q) :
    ((2 ^ 52 : Nat) : ℚ) ≤ q / 2 ^ unit q := by
  have hlog : unit q = Int.log 2 q - 52 := by
    rw [unit, abs_of_pos hpos] at hunit ⊢
    omega
  have hpower : (0 : ℚ) < 2 ^ unit q := zpow_pos (by norm_num) _
  rw [le_div_iff₀ hpower]
  calc
    ((2 ^ 52 : Nat) : ℚ) * 2 ^ unit q = 2 ^ Int.log 2 q := by
      rw [Nat.cast_pow, ← zpow_natCast, Nat.cast_ofNat, ← zpow_add₀ (by norm_num), hlog]
      congr 1
      omega
    _ ≤ q := by exact_mod_cast Int.zpow_log_le_self (b := 2) (by norm_num) hpos

namespace Rounded

variable {q r : ℚ}

/-- A natural number with 53 places is rounded to itself. -/
theorem eq_natCast {n : Nat} (h : Rounded n r) (hn : n < 2 ^ 53) : r = n := by
  have hsmall := abs_natCast_lt hn
  have habs : |(n : ℚ)| = n := abs_of_nonneg (Nat.cast_nonneg n)
  have hr : |r| = n := le_antisymm (h.abs_le hsmall habs.le) (h.le_abs hsmall habs.ge)
  rcases Nat.eq_zero_or_pos n with rfl | hpos
  · rw [Nat.cast_zero, abs_eq_zero] at hr
    rw [hr, Nat.cast_zero]
  · rwa [abs_of_nonneg (h.nonneg (Nat.cast_pos.2 hpos))] at hr

/-- Rounding does not pass a double. -/
theorem toRat_le {b : Binary} (h : Rounded q r) (hb : b.Canonical) (hpos : 0 < q)
    (hle : b.toRat ≤ q) : b.toRat ≤ r := by
  have hnonneg := h.nonneg hpos
  obtain ⟨-, k, hr, hk⟩ := h
  rw [abs_of_nonneg hnonneg] at hr
  rw [abs_of_pos hpos] at hk
  have hpower : (0 : ℚ) < 2 ^ unit q := zpow_pos (by norm_num) _
  obtain ⟨negative, m, e⟩ := b
  cases negative with
  | true =>
    refine le_trans ?_ hnonneg
    simp only [Binary.toRat, if_true, neg_nonpos]
    exact mul_nonneg (Nat.cast_nonneg _) (zpow_nonneg (by norm_num) _)
  | false =>
    have hvalue : Binary.toRat ⟨false, m, e⟩ = m * 2 ^ e := rfl
    rw [hr]
    rcases le_or_gt (unit q) e with hcoarse | hfine
    · -- the double is a multiple of the last place
      obtain ⟨j, rfl⟩ := Int.le.dest hcoarse
      have hmultiple : (m : ℚ) * 2 ^ (unit q + j) = (m * 2 ^ j : Nat) * 2 ^ unit q := by
        rw [zpow_add₀ (by norm_num), zpow_natCast]
        push_cast
        ring
      rw [hvalue, hmultiple] at hle ⊢
      have hplaces := hk.ge ((le_div_iff₀ hpower).2 hle)
      exact mul_le_mul_of_nonneg_right (by exact_mod_cast hplaces) hpower.le
    · have hplaces := hk.ge (two_pow_le_div_unit hpos (lt_of_le_of_lt hb.le_exponent hfine))
      exact (hb.magnitude_lt_of_full hplaces hfine).le

end Rounded

/-- A natural number becomes a double as it would if it were written down in decimals. -/
theorem ofInt_natCast (n : Nat) : ofInt n = Float.ofScientific n false 0 := by
  have hnonneg : ¬ (n : ℤ) < 0 := by omega
  rw [ofInt, if_neg hnonneg, Int.natAbs_natCast]

/-- A natural number with 53 places becomes a double that stands for it. -/
theorem denotes_toFloat {n : Nat} (hn : n < 2 ^ 53) : Denotes n.toUInt64.toFloat n := by
  have hsame : n.toUInt64.toNat = n := by
    rw [Nat.toUInt64, UInt64.toNat_ofNat']
    exact Nat.mod_eq_of_lt (by omega)
  have hpack : n.toUInt64.toFloat =
      .ofModel (.pack (UnpackedFloat.normalize Format.binary64 (n.toUInt64.toNat : ℤ) 0 .positive)) := rfl
  have hvalue : ((n : ℤ) : ℚ) * 2 ^ (0 : ℤ) = n := by simp
  have hunit := unit_nonpos (abs_natCast_lt hn)
  obtain ⟨r, hr, hrounded⟩ := denotes_pack_normalize (m := n) (e := 0) (by rw [hvalue]; omega)
  rw [hvalue] at hrounded
  rw [hpack, hsame]
  rwa [hrounded.eq_natCast hn] at hr

/-- The natural numbers up to the fifty-third power of two are doubles. -/
theorem denotes_ofInt {n : Nat} (hn : n ≤ 2 ^ 53) : Denotes (ofInt n) n := by
  rcases Nat.lt_or_ge n (2 ^ 53) with hlt | hge
  · have hproduct : Float.ofScientific n false 0 = n.toUInt64.toFloat * 1 := by
      unfold Float.ofScientific
      rw [dif_pos ⟨hlt, by decide⟩]
      rfl
    have hunit := unit_nonpos (abs_natCast_lt hlt)
    rw [← mul_one (n : ℚ)] at hunit
    obtain ⟨r, hr, hrounded⟩ := (denotes_toFloat hlt).mul denotes_one (by omega)
    rw [mul_one] at hrounded
    rw [ofInt_natCast, hproduct]
    rwa [hrounded.eq_natCast hlt] at hr
  · obtain rfl : n = 2 ^ 53 := le_antisymm hn hge
    exact ⟨⟨false, 2 ^ 52, 1⟩, by decide +kernel, by norm_num [Binary.toRat]⟩

/-- Larger ones are rounded, or are too large. -/
theorem ofInt_cases {n : Nat} (hn : 2 ^ 53 ≤ n) :
    (∃ r, Denotes (ofInt n) r ∧ Rounded n r) ∨ value (ofInt n) = .infinite false := by
  have hpos : 0 < (n <<< 53) * 1 := by
    rw [mul_one, Nat.shiftLeft_eq]
    positivity
  have hround : ofInt n = .ofModel (.pack
      (UnpackedFloat.roundWithAccuracy Format.binary64 .positive ((n <<< 53) * 1) (0 - (53 : Nat)) .exact)) := by
    have hmodel : ofInt n = .ofModel (.pack (UnpackedFloat.ofScientific Format.binary64 n 0)) := by
      rw [ofInt_natCast, Float.ofScientific, dif_neg (by omega)]
      rfl
    have hexponents : Format.binary64.exponentBits = 11 := rfl
    rw [hmodel, UnpackedFloat.ofScientific, hexponents, dif_neg (by omega), if_neg (by omega), if_neg (by omega),
      if_pos le_rfl]
    rfl
  have hvalue : Binary.toRat ⟨Sign.positive == .negative, (n <<< 53) * 1, 0 - (53 : Nat)⟩ = n := by
    rw [mul_one, toRat_decreaseExponent, toRat_positive, zpow_zero, mul_one]
  have hplaces : 52 ≤ ((n <<< 53) * 1).log2 := by
    rw [mul_one, log2_shiftLeft (by omega)]
    omega
  have hcases := pack_round_cases (s := .positive) (e := 0 - (53 : Nat)) hpos (Or.inl hplaces)
  rw [hvalue, ← hround] at hcases
  exact hcases.imp_right And.right

/-- A double rounded up to a natural number. Infinity is above all of them, and what is not positive gives zero. -/
def natCeil (x : Float) : ℕ∞ :=
  match value x with
  | .nan => 0
  | .infinite negative => if negative then 0 else ⊤
  | .finite b => ⌈b.toRat⌉₊

/-- A finite double is rounded up on its mantissa and exponent. -/
theorem natCeil_of_finite {x : Float} {b : Binary} (hx : value x = .finite b) : natCeil x = b.ceil := by
  rw [natCeil, hx, b.ceil_eq_natCeil]

/-- Only NaN and what is not positive is rounded up to zero. -/
theorem natCeil_eq_zero_iff (x : Float) : natCeil x = 0 ↔ isNaN x = true ∨ x ≤ 0 := by
  cases hx : value x with
  | nan => simp [natCeil, isNaN, hx]
  | infinite negative =>
    rw [le_zero_iff_of_infinite hx]
    cases negative <;> simp [natCeil, isNaN, hx]
  | finite b =>
    have hzero : x ≤ 0 ↔ b.toRat ≤ 0 := Denotes.le_iff ⟨b, hx, rfl⟩ denotes_zero
    rw [hzero]
    simp [natCeil, isNaN, hx]

variable {x : Float} {b : Binary} {n : Nat}

/-- A double is above a natural number with 53 places exactly if it is above it once it was rounded
    up. -/
theorem ofInt_lt_iff (hx : value x = .finite b) (hn : n ≤ 2 ^ 53) : ofInt n < x ↔ n < b.ceil := by
  rw [(denotes_ofInt hn).lt_iff ⟨b, hx, rfl⟩, b.ceil_eq_natCeil, Nat.lt_ceil]

/-- A double above what becomes of a natural number is above the number. -/
theorem lt_ceil_of_ofInt_lt (hx : value x = .finite b) (hless : ofInt n < x) : n < b.ceil := by
  rcases le_total n (2 ^ 53) with hsmall | hlarge
  · exact (ofInt_lt_iff hx hsmall).1 hless
  · rcases ofInt_cases hlarge with ⟨r, hr, hrounded⟩ | hinfinite
    · by_contra hle
      rw [b.ceil_eq_natCeil, not_lt, Nat.ceil_le] at hle
      have hpos : (0 : ℚ) < n := Nat.cast_pos.2 (by omega)
      have hnot := hrounded.toRat_le (canonical_of_value hx) hpos hle
      exact absurd ((hr.lt_iff ⟨b, hx, rfl⟩).1 hless) (not_lt.2 hnot)
    · exact absurd hless (not_lt_of_infinite hinfinite x)

end SpriteStage.Number
