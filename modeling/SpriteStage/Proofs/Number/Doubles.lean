import Mathlib.Tactic.Linarith
import Mathlib.Tactic.NormNum
import SpriteStage.Proofs.Number.Ceil

namespace SpriteStage.Number

open Float.Model (Format UnpackedFloat)
open Float.Model.UnpackedFloat (Sign)

/-- What the parts of a double stand for. -/
def valueOfParts : UnpackedFloat → Value
  | .notANumber => .nan
  | .infinity s => .infinite (s == .negative)
  | .zero s => .finite ⟨s == .negative, 0, -1074⟩
  | .finite s m e _ => .finite ⟨s == .negative, m, e⟩

/-- A finite value in parts is a mantissa and an exponent with a sign. -/
private theorem valueOfParts_finite (s : Sign) {m : Nat} (e : Int) (hm : 0 < m) :
    valueOfParts (.finite s m e hm) = .finite ⟨s == .negative, m, e⟩ :=
  rfl

section Bits

variable (b : BitVec Format.binary64.numBits)

/-- The mantissa is in the lowest 52 bits. -/
private theorem toNat_unpackMantissa : (UnpackedFloat.unpackMantissa b).toNat = b.toNat % 2 ^ 52 := by
  simp [UnpackedFloat.unpackMantissa]

/-- The exponent is in the eleven bits above. -/
private theorem toNat_unpackExponent :
    (UnpackedFloat.unpackExponent b).toNat = b.toNat / 2 ^ 52 % 2 ^ 11 := by
  simp [UnpackedFloat.unpackExponent, Nat.shiftRight_eq_div_pow]

/-- The sign is the highest bit. -/
private theorem toNat_unpackSign : (UnpackedFloat.unpackSign b).toNat = b.toNat / 2 ^ 63 % 2 := by
  have hsign : UnpackedFloat.unpackSign b = BitVec.extractLsb 63 63 b := rfl
  rw [hsign, BitVec.extractLsb_toNat, Nat.shiftRight_eq_div_pow]

private theorem isNegative_ofBitVec (s : BitVec 1) :
    (Sign.ofBitVec s == Sign.negative) = (s.toNat == 1) := by
  obtain rfl | rfl : s = 0#1 ∨ s = 1#1 := by
    rcases hs : s.toNat with _ | _ | n
    · exact Or.inl (BitVec.eq_of_toNat_eq hs)
    · exact Or.inr (BitVec.eq_of_toNat_eq hs)
    · have := s.isLt
      omega
  · rfl
  · rfl

/-- The leading bit of a mantissa is not written. -/
private theorem toNat_append_mantissa (m : BitVec 52) : (1#1 ++ m).toNat = m.toNat + 2 ^ 52 := by
  rw [BitVec.toNat_append, ← Nat.shiftLeft_add_eq_or_of_lt m.isLt]
  simp [Nat.add_comm]

/-- The value that is read off the bits is that of the parts into which the library
    takes a double. -/
private theorem valueOfBits_eq :
    valueOfBits b.toNat = valueOfParts (UnpackedFloat.unpack Format.binary64 b) := by
  have hmantissa := toNat_unpackMantissa b
  have hexponent := toNat_unpackExponent b
  have hnegative : (Sign.ofBitVec (UnpackedFloat.unpackSign b) == Sign.negative) =
      (b.toNat / 2 ^ 63 % 2 == 1) := by
    rw [isNegative_ofBitVec, toNat_unpackSign]
  have hinfinite : UnpackedFloat.unpackExponent b = -BitVec.ofNat Format.binary64.exponentBits 1 ↔
      b.toNat / 2 ^ 52 % 2 ^ 11 = 2047 := by
    rw [← hexponent, ← BitVec.toNat_inj]
    rfl
  have hsubnormal : UnpackedFloat.unpackExponent b = BitVec.ofNat Format.binary64.exponentBits 0 ↔
      b.toNat / 2 ^ 52 % 2 ^ 11 = 0 := by
    rw [← hexponent, ← BitVec.toNat_inj]
    rfl
  have hzero : (UnpackedFloat.unpackMantissa b).toNat = 0 ↔
      UnpackedFloat.unpackMantissa b = BitVec.ofNat Format.binary64.mantissaBitsWithoutImplicit 0 := by
    rw [← BitVec.toNat_inj]
    rfl
  -- The bits are rewritten before the parts are opened, since these carry a proof about the mantissa.
  unfold valueOfBits
  simp only [Nat.pow_eq, ← hinfinite, ← hsubnormal, ← hnegative, ← hmantissa, hzero]
  unfold UnpackedFloat.unpack
  dsimp only
  by_cases hlast : UnpackedFloat.unpackExponent b = -BitVec.ofNat Format.binary64.exponentBits 1
  · rw [if_pos hlast, if_pos hlast]
    split <;> rfl
  rw [if_neg hlast, if_neg hlast]
  by_cases hscale : UnpackedFloat.unpackExponent b = BitVec.ofNat Format.binary64.exponentBits 0
  · rw [if_pos hscale, if_pos hscale]
    by_cases hm : UnpackedFloat.unpackMantissa b = BitVec.ofNat Format.binary64.mantissaBitsWithoutImplicit 0
    · rw [dif_pos hm, hm]
      rfl
    · rw [dif_neg hm, valueOfParts_finite, hscale]
      rfl
  · rw [if_neg hscale, if_neg hscale, valueOfParts_finite, ← hexponent, ← toNat_append_mantissa]
    rfl

end Bits

/-- The bits of a double and its parts stand for the same. -/
theorem value_eq (x : Float) : value x = valueOfParts x.toModel.unpack :=
  valueOfBits_eq _

/-- The shape of the values of doubles: fifty-three places, all of them used above the least exponent. -/
structure Binary.Canonical (b : Binary) : Prop where
  mantissa_lt : b.mantissa < 2 ^ 53
  le_exponent : -1074 ≤ b.exponent
  exponent_le : b.exponent ≤ 971
  full : 2 ^ 52 ≤ b.mantissa ∨ b.exponent = -1074

/-- A finite double has the mantissa and the exponent that its bits allow: 53 places, or fewer with
    the least exponent. -/
theorem canonical_of_value {x : Float} {b : Binary} (hvalue : value x = .finite b) : b.Canonical := by
  unfold value valueOfBits at hvalue
  generalize x.toBits.toNat = n at hvalue
  have hfraction : n % 2 ^ 52 < 2 ^ 52 := Nat.mod_lt _ (Nat.two_pow_pos 52)
  have hscale : n / 2 ^ 52 % 2 ^ 11 < 2 ^ 11 := Nat.mod_lt _ (Nat.two_pow_pos 11)
  simp only [Nat.pow_eq] at hvalue
  split at hvalue
  case isTrue => split at hvalue <;> cases hvalue
  case isFalse hfinite =>
    split at hvalue
    case isTrue =>
      cases hvalue
      refine ⟨?_, ?_, ?_, Or.inr rfl⟩ <;> dsimp only <;> omega
    case isFalse =>
      cases hvalue
      refine ⟨?_, ?_, ?_, Or.inl ?_⟩ <;> dsimp only <;> omega

/-- The bits of a double are its sign, its exponent and its mantissa, one behind the other. -/
private theorem toNat_packComponents (s : Sign) (e : BitVec 11) (m : BitVec 52) :
    (UnpackedFloat.packComponents Format.binary64 s e m).toNat =
      s.toBitVec.toNat * 2 ^ 63 + e.toNat * 2 ^ 52 + m.toNat := by
  rw [UnpackedFloat.packComponents, BitVec.toNat_append, BitVec.toNat_append,
    ← Nat.shiftLeft_add_eq_or_of_lt m.isLt, ← Nat.shiftLeft_add_eq_or_of_lt e.isLt]
  simp only [Nat.shiftLeft_eq]
  omega

/-- What is packed from its components is read off again. -/
private theorem valueOfBits_packComponents (s : Sign) {e m : Nat} (he : e < 2047) (hm : m < 2 ^ 52) :
    valueOfBits (UnpackedFloat.packComponents Format.binary64 s (BitVec.ofNat 11 e) (BitVec.ofNat 52 m)).toNat =
      if e = 0 then .finite ⟨s == .negative, m, -1074⟩
      else .finite ⟨s == .negative, m + 2 ^ 52, (e : Int) - 1075⟩ := by
  have hnegative : s.toBitVec.toNat < 2 := s.toBitVec.isLt
  rw [toNat_packComponents, BitVec.toNat_ofNat, BitVec.toNat_ofNat, Nat.mod_eq_of_lt (by omega),
    Nat.mod_eq_of_lt hm]
  generalize hbits : s.toBitVec.toNat * 2 ^ 63 + e * 2 ^ 52 + m = n
  have hsign : n / 2 ^ 63 % 2 = s.toBitVec.toNat := by omega
  have hscale : n / 2 ^ 52 % 2 ^ 11 = e := by omega
  have hfraction : n % 2 ^ 52 = m := by omega
  have hone : (s.toBitVec.toNat == 1) = (s == .negative) := by cases s <;> rfl
  simp only [valueOfBits, Nat.pow_eq, hsign, hscale, hfraction, hone, if_neg (Nat.ne_of_lt he)]

/-- A packed zero keeps its sign. -/
theorem value_pack_zero (s : Sign) : value (.ofModel (.pack (.zero s))) = .finite ⟨s == .negative, 0, -1074⟩ := by
  cases s <;> rfl

/-- An exponent out of range is packed as infinity, a mantissa without the leading bit with the least exponent. -/
private theorem value_pack {s : Sign} {m : Nat} {e : Int} (hpos : 0 < m) :
    value (.ofModel (.pack (.finite s m e hpos))) =
      valueOfBits (if 2 ^ 11 ≤ (e + 1023 + 52).toNat + 1 then UnpackedFloat.packedInfinity Format.binary64 s
        else if m.log2 + 1 = 53 then
          UnpackedFloat.packComponents Format.binary64 s (BitVec.ofNat 11 (e + 1023 + 52).toNat) (BitVec.ofNat 52 m)
        else UnpackedFloat.packComponents Format.binary64 s (BitVec.ofNat 11 0) (BitVec.ofNat 52 m)).toNat :=
  rfl

/-- A packed number with a canonical mantissa and exponent has them still. -/
theorem value_pack_finite {s : Sign} {m : Nat} {e : Int} (hpos : 0 < m)
    (hcanonical : Binary.Canonical ⟨s == .negative, m, e⟩) :
    value (.ofModel (.pack (.finite s m e hpos))) = .finite ⟨s == .negative, m, e⟩ := by
  obtain ⟨hlt, hlow, hhigh, hfull⟩ := hcanonical
  dsimp only at hlt hlow hhigh hfull
  have hfits : ¬2 ^ 11 ≤ (e + 1023 + 52).toNat + 1 := by omega
  rw [value_pack hpos, if_neg hfits]
  by_cases hnormal : 2 ^ 52 ≤ m
  · have hlog : m.log2 + 1 = 53 := by
      rw [(Nat.log2_eq_iff (by omega)).2 ⟨hnormal, hlt⟩]
    have hunwritten : BitVec.ofNat 52 m = BitVec.ofNat 52 (m - 2 ^ 52) := by
      apply BitVec.eq_of_toNat_eq
      rw [BitVec.toNat_ofNat, BitVec.toNat_ofNat]
      omega
    have hmantissa : m - 2 ^ 52 + 2 ^ 52 = m := Nat.sub_add_cancel hnormal
    have hexponent : ((e + 1023 + 52).toNat : Int) - 1075 = e := by omega
    rw [if_pos hlog, hunwritten, valueOfBits_packComponents s (by omega) (by omega), if_neg (by omega), hmantissa,
      hexponent]
  · have hlog : m.log2 + 1 ≠ 53 := by
      have := (Nat.log2_lt (Nat.ne_of_gt hpos)).2 (Nat.lt_of_not_le hnormal)
      omega
    have hleast := hfull.resolve_left hnormal
    rw [if_neg hlog, hleast]
    exact valueOfBits_packComponents s (e := 0) (by omega) (by omega)

/-- An exponent that is too large for doubles is packed as infinity. -/
theorem value_pack_infinite {s : Sign} {m : Nat} {e : Int} (hpos : 0 < m) (he : 972 ≤ e) :
    value (.ofModel (.pack (.finite s m e hpos))) = .infinite (s == .negative) := by
  have hlarge : 2 ^ 11 ≤ (e + 1023 + 52).toNat + 1 := by omega
  rw [value_pack hpos, if_pos hlarge]
  cases s <;> rfl

namespace Binary

/-- A full mantissa with a coarser last place is above a double. -/
theorem Canonical.magnitude_lt_of_full {a : Binary} (ha : a.Canonical) {m : Nat} {e : ℤ} (hfull : 2 ^ 52 ≤ m)
    (hexponent : a.exponent < e) : (a.mantissa : ℚ) * 2 ^ a.exponent < m * 2 ^ e := by
  have hpower : (0 : ℚ) < 2 ^ a.exponent := zpow_pos (by norm_num) _
  calc
    (a.mantissa : ℚ) * 2 ^ a.exponent < 2 ^ 53 * 2 ^ a.exponent := by
      apply mul_lt_mul_of_pos_right _ hpower
      exact_mod_cast ha.mantissa_lt
    _ = 2 ^ 52 * 2 ^ (a.exponent + 1) := by
      rw [zpow_add_one₀ (by norm_num)]
      ring
    _ ≤ m * 2 ^ e := by
      have hcast : (2 ^ 52 : ℚ) ≤ m := by exact_mod_cast hfull
      have hstep : (2 : ℚ) ^ (a.exponent + 1) ≤ 2 ^ e := zpow_le_zpow_right₀ (by norm_num) hexponent
      exact mul_le_mul hcast hstep (zpow_nonneg (by norm_num) _) (Nat.cast_nonneg _)

/-- A finer last place makes a smaller double. -/
theorem Canonical.magnitude_lt {a b : Binary} (ha : a.Canonical) (hb : b.Canonical)
    (hexponent : a.exponent < b.exponent) :
    (a.mantissa : ℚ) * 2 ^ a.exponent < b.mantissa * 2 ^ b.exponent := by
  have hcoarse : b.exponent ≠ -1074 := ne_of_gt (lt_of_le_of_lt ha.le_exponent hexponent)
  exact ha.magnitude_lt_of_full (hb.full.resolve_right hcoarse) hexponent

/-- Canonical magnitudes are in the order of their exponents first and of their mantissas then. -/
theorem Canonical.compare_magnitude {a b : Binary} (ha : a.Canonical) (hb : b.Canonical) :
    (compare a.exponent b.exponent).then (compare a.mantissa b.mantissa) =
      compare ((a.mantissa : ℚ) * 2 ^ a.exponent) (b.mantissa * 2 ^ b.exponent) := by
  rcases lt_trichotomy a.exponent b.exponent with hlt | heq | hgt
  · rw [compare_lt_iff_lt.2 hlt, compare_lt_iff_lt.2 (ha.magnitude_lt hb hlt)]
    rfl
  · have hpower : (0 : ℚ) < 2 ^ b.exponent := zpow_pos (by norm_num) _
    rw [compare_eq_iff_eq.2 heq, heq]
    rcases lt_trichotomy a.mantissa b.mantissa with hless | hsame | hmore
    · have hcast : (a.mantissa : ℚ) < b.mantissa := by exact_mod_cast hless
      rw [compare_lt_iff_lt.2 hless, compare_lt_iff_lt.2 (mul_lt_mul_of_pos_right hcast hpower)]
      rfl
    · rw [compare_eq_iff_eq.2 hsame, hsame, compare_eq_iff_eq.2 rfl]
      rfl
    · have hcast : (b.mantissa : ℚ) < a.mantissa := by exact_mod_cast hmore
      rw [compare_gt_iff_gt.2 hmore, compare_gt_iff_gt.2 (mul_lt_mul_of_pos_right hcast hpower)]
      rfl
  · rw [compare_gt_iff_gt.2 hgt, compare_gt_iff_gt.2 (hb.magnitude_lt ha hgt)]
    rfl

end Binary

/-- Negation turns the order round. -/
private theorem compare_neg (p q : ℚ) : compare (-p) (-q) = (compare p q).swap := by
  rcases lt_trichotomy p q with hlt | rfl | hgt
  · rw [compare_lt_iff_lt.2 hlt, compare_gt_iff_gt.2 (neg_lt_neg hlt)]
    rfl
  · rw [compare_eq_iff_eq.2 rfl, compare_eq_iff_eq.2 rfl]
    rfl
  · rw [compare_gt_iff_gt.2 hgt, compare_lt_iff_lt.2 (neg_lt_neg hgt)]
    rfl

theorem toRat_negative (m : Nat) (e : Int) :
    Binary.toRat ⟨Sign.negative == .negative, m, e⟩ = -((m : ℚ) * 2 ^ e) :=
  rfl

theorem toRat_positive (m : Nat) (e : Int) :
    Binary.toRat ⟨Sign.positive == .negative, m, e⟩ = (m : ℚ) * 2 ^ e :=
  rfl

private theorem toRat_zero (negative : Bool) (e : Int) : Binary.toRat ⟨negative, 0, e⟩ = 0 := by
  simp [Binary.toRat]

/-- Doubles are compared as their fractions are. -/
theorem compare_parts {u v : UnpackedFloat} {a b : Binary} (hu : valueOfParts u = .finite a)
    (hv : valueOfParts v = .finite b) (ha : a.Canonical) (hb : b.Canonical) :
    u.compare v = some (compare a.toRat b.toRat) := by
  have hpositive (m : Nat) (e : Int) (hm : 0 < m) : (0 : ℚ) < m * 2 ^ e :=
    mul_pos (Nat.cast_pos.2 hm) (zpow_pos (by norm_num) e)
  cases u with
  | notANumber => cases hu
  | infinity s => cases hu
  | zero s =>
    cases v with
    | notANumber => cases hv
    | infinity t => cases hv
    | zero t =>
      cases hu
      cases hv
      rw [toRat_zero, toRat_zero, compare_eq_iff_eq.2 rfl]
      rfl
    | finite t n f hn =>
      cases hu
      cases hv
      have hn := hpositive n f hn
      cases t with
      | negative =>
        rw [toRat_zero, toRat_negative, compare_gt_iff_gt.2 (neg_neg_of_pos hn)]
        rfl
      | positive =>
        rw [toRat_zero, toRat_positive, compare_lt_iff_lt.2 hn]
        rfl
  | finite s m e hm =>
    have hm := hpositive m e hm
    cases v with
    | notANumber => cases hv
    | infinity t => cases hv
    | zero t =>
      cases hu
      cases hv
      cases s with
      | negative =>
        rw [toRat_zero, toRat_negative, compare_lt_iff_lt.2 (neg_neg_of_pos hm)]
        rfl
      | positive =>
        rw [toRat_zero, toRat_positive, compare_gt_iff_gt.2 hm]
        rfl
    | finite t n f hn =>
      cases hu
      cases hv
      have hmagnitude := ha.compare_magnitude hb
      have hn := hpositive n f hn
      cases s with
      | negative =>
        cases t with
        | negative =>
          rw [toRat_negative, toRat_negative, compare_neg, ← hmagnitude]
          rfl
        | positive =>
          rw [toRat_negative, toRat_positive, compare_lt_iff_lt.2 (by linarith)]
          rfl
      | positive =>
        cases t with
        | negative =>
          rw [toRat_negative, toRat_positive, compare_gt_iff_gt.2 (by linarith)]
          rfl
        | positive =>
          rw [toRat_positive, toRat_positive, ← hmagnitude]
          rfl

/-- The double is finite and stands for this fraction. -/
def Denotes (x : Float) (q : ℚ) : Prop :=
  ∃ b, value x = .finite b ∧ b.toRat = q

/-- A finite double stands for a fraction. -/
theorem denotes_of_isFinite {x : Float} (hfinite : isFinite x = true) : ∃ q, Denotes x q := by
  unfold isFinite at hfinite
  split at hfinite
  case h_1 b hvalue => exact ⟨b.toRat, b, hvalue, rfl⟩
  case h_2 => cases hfinite

/-- The order of doubles is decided on their parts. -/
private theorem lt_iff_compare (x y : Float) :
    x < y ↔ (x.toModel.unpack.compare y.toModel.unpack == some .lt) = true :=
  decide_eq_true_iff

/-- The order of doubles that may be equal is decided on their parts. -/
private theorem le_iff_compare (x y : Float) :
    x ≤ y ↔ (x.toModel.unpack.compare y.toModel.unpack).any (·.isLE) = true :=
  decide_eq_true_iff

namespace Denotes

variable {x y z : Float} {p q r : ℚ}

/-- Doubles that stand for fractions compare as the fractions do. -/
theorem compare_eq (hx : Denotes x p) (hy : Denotes y q) :
    x.toModel.unpack.compare y.toModel.unpack = some (compare p q) := by
  obtain ⟨a, ha, rfl⟩ := hx
  obtain ⟨b, hb, rfl⟩ := hy
  rw [← compare_parts ((value_eq x).symm.trans ha) ((value_eq y).symm.trans hb) (canonical_of_value ha)
    (canonical_of_value hb)]

/-- A double is below another exactly if its fraction is. -/
theorem lt_iff (hx : Denotes x p) (hy : Denotes y q) : x < y ↔ p < q := by
  rw [lt_iff_compare, hx.compare_eq hy, beq_iff_eq, Option.some.injEq, compare_lt_iff_lt]

/-- A double is not above another exactly if its fraction is not. -/
theorem le_iff (hx : Denotes x p) (hy : Denotes y q) : x ≤ y ↔ p ≤ q := by
  rw [le_iff_compare, hx.compare_eq hy, Option.any_some, ← compare_le_iff_le, Ordering.isLE_iff_ne_gt]

/-- The parts of a finite double. -/
theorem parts (hx : Denotes x p) :
    (∃ s, x.toModel.unpack = .zero s ∧ p = 0) ∨
      ∃ s m e, ∃ hm : 0 < m, x.toModel.unpack = .finite s m e hm ∧
        p = Binary.toRat ⟨s == .negative, m, e⟩ ∧ Binary.Canonical ⟨s == .negative, m, e⟩ := by
  obtain ⟨b, hb, rfl⟩ := hx
  have hcanonical := canonical_of_value hb
  rw [value_eq] at hb
  generalize x.toModel.unpack = u at hb ⊢
  cases u with
  | notANumber => cases hb
  | infinity s => cases hb
  | zero s =>
    cases hb
    exact Or.inl ⟨s, rfl, toRat_zero _ _⟩
  | finite s m e hm =>
    cases hb
    exact Or.inr ⟨s, m, e, hm, rfl, rfl, hcanonical⟩

/-- What lies between finite doubles is finite. -/
theorem of_between (hx : Denotes x p) (hz : Denotes z r) (hlow : x ≤ y) (hhigh : y ≤ z) :
    ∃ q, Denotes y q := by
  suffices hfinite : ∃ c, valueOfParts y.toModel.unpack = .finite c by
    obtain ⟨c, hc⟩ := hfinite
    exact ⟨c.toRat, c, (value_eq y).trans hc, rfl⟩
  rw [le_iff_compare] at hlow hhigh
  generalize y.toModel.unpack = v at hlow hhigh ⊢
  cases v with
  | zero s => exact ⟨_, rfl⟩
  | finite s m e hm => exact ⟨_, rfl⟩
  | notANumber =>
    obtain ⟨t, hparts, -⟩ | ⟨t, n, f, hn, hparts, -⟩ := hx.parts <;> rw [hparts] at hlow
    · exact absurd hlow Bool.false_ne_true
    · exact absurd hlow Bool.false_ne_true
  | infinity s =>
    cases s with
    | negative =>
      obtain ⟨t, hparts, -⟩ | ⟨t, n, f, hn, hparts, -⟩ := hx.parts <;> rw [hparts] at hlow
      · exact absurd hlow Bool.false_ne_true
      · cases t <;> exact absurd hlow Bool.false_ne_true
    | positive =>
      obtain ⟨t, hparts, -⟩ | ⟨t, n, f, hn, hparts, -⟩ := hz.parts <;> rw [hparts] at hhigh
      · exact absurd hhigh Bool.false_ne_true
      · exact absurd hhigh Bool.false_ne_true

protected theorem neg (hx : Denotes x p) : Denotes (-x) (-p) := by
  have hvalue : value (-x) = value (.ofModel (.pack x.toModel.unpack.neg)) := rfl
  obtain ⟨s, hparts, rfl⟩ | ⟨s, m, e, hm, hparts, rfl, hlt, hlow, hhigh, hfull⟩ := hx.parts
  · rw [hparts] at hvalue
    exact ⟨_, hvalue.trans (value_pack_zero (-s)), by rw [toRat_zero, neg_zero]⟩
  · rw [hparts] at hvalue
    refine ⟨_, hvalue.trans (value_pack_finite hm ⟨hlt, hlow, hhigh, hfull⟩), ?_⟩
    cases s with
    | negative => exact (neg_neg _).symm
    | positive => rfl

end Denotes

/-- Nothing is above infinity. -/
theorem not_lt_of_infinite {x : Float} (hx : value x = .infinite false) (y : Float) : ¬ x < y := by
  rw [value_eq] at hx
  rw [lt_iff_compare]
  generalize x.toModel.unpack = u at hx ⊢
  generalize y.toModel.unpack = v
  cases u with
  | notANumber | zero | finite => cases hx
  | infinity s =>
    cases s with
    | negative => cases hx
    | positive =>
      cases v with
      | infinity t => cases t <;> exact Bool.false_ne_true
      | notANumber | zero | finite => exact Bool.false_ne_true

/-- Of the infinities the negative one is below zero. -/
theorem le_zero_iff_of_infinite {x : Float} {negative : Bool} (hx : value x = .infinite negative) :
    x ≤ 0 ↔ negative = true := by
  have hzero : (0 : Float).toModel.unpack = .zero .positive := rfl
  rw [value_eq] at hx
  rw [le_iff_compare, hzero]
  generalize x.toModel.unpack = u at hx ⊢
  cases u with
  | notANumber | zero | finite => cases hx
  | infinity s => cases s <;> cases hx <;> decide

theorem denotes_zero : Denotes 0 0 := by
  refine ⟨⟨false, 0, -1074⟩, rfl, ?_⟩
  simp [Binary.toRat]

end SpriteStage.Number
