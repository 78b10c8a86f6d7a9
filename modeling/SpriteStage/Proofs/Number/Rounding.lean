import Mathlib.Data.Int.Log
import Mathlib.Tactic.FieldSimp
import Mathlib.Tactic.Positivity
import Mathlib.Tactic.Ring
import SpriteStage.Number.Fused
import SpriteStage.Proofs.Number.Doubles

namespace SpriteStage.Number

open Float.Model (Format UnpackedFloat totalExponent)
open Float.Model.UnpackedFloat (Sign ExtendedMantissa)

/-- The natural number nearest to a fraction, a half going to the even neighbour. -/
structure Nearest (q : ℚ) (k : Nat) : Prop where
  low : 2 * (k : ℚ) ≤ 2 * q + 1
  high : 2 * q ≤ 2 * k + 1
  even : 2 * q + 1 = 2 * k ∨ 2 * q = 2 * k + 1 → k % 2 = 0

/-- Rounding does not pass a natural number. -/
theorem Nearest.le {q : ℚ} {k n : Nat} (h : Nearest q k) (hq : q ≤ n) : k ≤ n := by
  have hcast : ((2 * k : Nat) : ℚ) ≤ ((2 * n + 1 : Nat) : ℚ) := by
    push_cast
    linarith [h.low]
  have hle : 2 * k ≤ 2 * n + 1 := by exact_mod_cast hcast
  omega

/-- What is not below a natural number is not rounded below it. -/
theorem Nearest.ge {q : ℚ} {k n : Nat} (h : Nearest q k) (hq : n ≤ q) : n ≤ k := by
  have hcast : ((2 * n : Nat) : ℚ) ≤ ((2 * k + 1 : Nat) : ℚ) := by
    push_cast
    linarith [h.high]
  have hle : 2 * n ≤ 2 * k + 1 := by exact_mod_cast hcast
  omega

/-- A mantissa with its two residual bits tells where this fraction lies. -/
def Places : ExtendedMantissa → ℚ → Prop
  | ⟨m, false, false⟩, q => q = m
  | ⟨m, false, true⟩, q => m < q ∧ q < m + 1 / 2
  | ⟨m, true, false⟩, q => q = m + 1 / 2
  | ⟨m, true, true⟩, q => m + 1 / 2 < q ∧ q < m + 1

/-- The mantissa that the library rounds to is the nearest one. -/
theorem Places.nearest {em : ExtendedMantissa} {q : ℚ} (h : Places em q) :
    Nearest q em.roundedMantissa := by
  obtain ⟨m, roundBit, stickyBit⟩ := em
  cases roundBit with
  | false =>
    cases stickyBit with
    | false =>
      change Nearest q m
      have hq : q = m := h
      exact ⟨by linarith, by linarith, fun htie => by rcases htie with htie | htie <;> linarith⟩
    | true =>
      change Nearest q m
      obtain ⟨hlow, hhigh⟩ : (m : ℚ) < q ∧ q < m + 1 / 2 := h
      exact ⟨by linarith, by linarith, fun htie => by rcases htie with htie | htie <;> linarith⟩
  | true =>
    cases stickyBit with
    | false =>
      change Nearest q (m + m % 2)
      have hq : q = m + 1 / 2 := h
      have hbit : ((m % 2 : Nat) : ℚ) ≤ 1 := by exact_mod_cast Nat.le_of_lt_succ (Nat.mod_lt m (by omega))
      have hzero : (0 : ℚ) ≤ (m % 2 : Nat) := Nat.cast_nonneg _
      refine ⟨?_, ?_, fun _ => by omega⟩ <;> push_cast <;> linarith
    | true =>
      change Nearest q (m + 1)
      obtain ⟨hlow, hhigh⟩ : (m : ℚ) + 1 / 2 < q ∧ q < m + 1 := h
      refine ⟨?_, ?_, fun htie => ?_⟩ <;> push_cast at *
      · linarith
      · linarith
      · rcases htie with htie | htie <;> linarith

/-- A shift by one place halves the number and notes what falls off. -/
theorem Places.shiftRightOne {em : ExtendedMantissa} {q : ℚ} (h : Places em q) :
    Places em.shiftRightOne (q / 2) := by
  obtain ⟨m, roundBit, stickyBit⟩ := em
  obtain ⟨n, odd, hshift, hm⟩ : ∃ (n : Nat) (odd : Bool),
      ExtendedMantissa.shiftRightOne ⟨m, roundBit, stickyBit⟩ = ⟨n, odd, roundBit || stickyBit⟩ ∧
        (m : ℚ) = 2 * n + if odd then 1 else 0 := by
    obtain ⟨n, rfl | rfl⟩ := Nat.even_or_odd' m
    · exact ⟨n, false, by simp [ExtendedMantissa.shiftRightOne], by simp⟩
    · have hhalf : (2 * n + 1) / 2 = n := by omega
      exact ⟨n, true, by simp [ExtendedMantissa.shiftRightOne, hhalf], by simp⟩
  rw [hshift]
  -- halving moves the round bit into the sticky one, and the last place into the round bit
  cases odd <;> cases roundBit <;> cases stickyBit <;>
    simp only [Places, Bool.or_self, Bool.or_true, Bool.or_false, if_true, Bool.false_eq_true, if_false] at h hm ⊢
  all_goals first
    | linarith
    | constructor <;> linarith

/-- A shift by some places divides by their power of two and notes what falls off. -/
theorem Places.shiftRight {em : ExtendedMantissa} {q : ℚ} (h : Places em q) (n : Nat) :
    Places (em >>> n) (q / 2 ^ n) := by
  induction n with
  | zero =>
    rw [pow_zero, div_one]
    exact h
  | succ n ih =>
    have hhalf : q / 2 ^ (n + 1) = q / 2 ^ n / 2 := by rw [pow_succ, div_div]
    rw [hhalf]
    exact ih.shiftRightOne

/-- The exponent of the last place of the doubles around a fraction: fifty-three places are kept, but none below
    the last place of the least doubles. -/
def unit (q : ℚ) : ℤ :=
  max (Int.log 2 |q| - 52) (-1074)

/-- The binary logarithm is read off the powers of two around a number. -/
theorem log_two_eq {q : ℚ} {t : ℤ} (hlow : 2 ^ t ≤ q) (hhigh : q < 2 ^ (t + 1)) : Int.log 2 q = t := by
  have hpos : 0 < q := (zpow_pos (by norm_num) t).trans_le hlow
  have hle := (Int.zpow_le_iff_le_log (b := 2) (by norm_num) hpos).1 (by exact_mod_cast hlow)
  have hlt := (Int.lt_zpow_iff_log_lt (b := 2) (by norm_num) hpos).1 (by exact_mod_cast hhigh)
  omega

/-- The binary logarithm of a mantissa with an exponent is the length of the mantissa and the
    exponent. -/
theorem log_magnitude {m : Nat} (hm : 0 < m) (e : ℤ) : Int.log 2 ((m : ℚ) * 2 ^ e) = m.log2 + e := by
  have hpower : (0 : ℚ) < 2 ^ e := zpow_pos (by norm_num) e
  have hlow : ((2 ^ m.log2 : Nat) : ℚ) ≤ m := by exact_mod_cast Nat.log2_self_le (Nat.ne_of_gt hm)
  have hhigh : (m : ℚ) < (2 ^ (m.log2 + 1) : Nat) := by exact_mod_cast Nat.lt_log2_self
  have hsplit (n : Nat) : (2 : ℚ) ^ ((n : ℤ) + e) = (2 ^ n : Nat) * 2 ^ e := by
    rw [zpow_add₀ (by norm_num), zpow_natCast, Nat.cast_pow, Nat.cast_ofNat]
  apply log_two_eq
  · rw [hsplit]
    exact mul_le_mul_of_nonneg_right hlow hpower.le
  · have hnext : (m.log2 : ℤ) + e + 1 = (m.log2 + 1 : Nat) + e := by omega
    rw [hnext, hsplit]
    exact mul_lt_mul_of_pos_right hhigh hpower

/-- The exponent that a rounded number has leaves 53 places to the mantissa, and is never below the
    least one. -/
theorem targetExponent_eq (m : Nat) (e : ℤ) :
    Format.binary64.targetExponent (totalExponent m e) = max (m.log2 + e - 52) (-1074) := by
  have hplaces : Format.binary64.mantissaBits = 53 := rfl
  have hleast : Format.binary64.minExponent = -1074 := rfl
  rw [Format.targetExponent, totalExponent, hplaces, hleast]
  congr 1
  omega

/-- Rounding shifts the mantissa to the exponent that the number is to have. -/
private theorem shift_eq (m : Nat) (e : ℤ) :
    UnpackedFloat.shiftToTargetExponent Format.binary64 m e .exact =
      (ExtendedMantissa.mk m false false >>> (max (m.log2 + e - 52) (-1074) - e).toNat,
        e + (max (m.log2 + e - 52) (-1074) - e).toNat) := by
  rw [← targetExponent_eq]
  rfl

/-- A mantissa that has few enough places stays. -/
private theorem shift_of_lt {m : Nat} {e : ℤ} (hm : m < 2 ^ 53) (he : -1074 ≤ e) :
    UnpackedFloat.shiftToTargetExponent Format.binary64 m e .exact = (⟨m, false, false⟩, e) := by
  have hlog : m.log2 ≤ 52 := by
    rcases Nat.eq_zero_or_pos m with rfl | hpos
    · simp
    · exact Nat.le_of_lt_succ ((Nat.log2_lt (Nat.ne_of_gt hpos)).2 hm)
  have hshift : (max (m.log2 + e - 52) (-1074) - e).toNat = 0 := by omega
  rw [shift_eq, hshift]
  simp [HShiftRight.hShiftRight, Nat.repeat]

/-- A mantissa that was rounded up to one place more loses it again. -/
private theorem shift_of_carry {e : ℤ} (he : -1074 ≤ e) :
    UnpackedFloat.shiftToTargetExponent Format.binary64 (2 ^ 53) e .exact = (⟨2 ^ 52, false, false⟩, e + 1) := by
  have hshift : (max (((2 ^ 53 : Nat).log2 : ℤ) + e - 52) (-1074) - e).toNat = 1 := by
    rw [Nat.log2_two_pow]
    omega
  rw [shift_eq, hshift]
  rfl

/-- What is left of the mantissa has at most one place too many. -/
private theorem shifted_le {m sh : Nat} (hsh : m.log2 ≤ 52 + sh) : (m : ℚ) / 2 ^ sh ≤ (2 ^ 53 : Nat) := by
  have hlt : m < 2 ^ (53 + sh) :=
    Nat.lt_of_lt_of_le Nat.lt_log2_self (Nat.pow_le_pow_right (by omega) (by omega))
  have hcast : (m : ℚ) ≤ (2 ^ (53 + sh) : Nat) := by exact_mod_cast Nat.le_of_lt hlt
  rw [div_le_iff₀ (pow_pos (by norm_num) sh)]
  refine hcast.trans_eq ?_
  rw [pow_add, Nat.cast_mul, Nat.cast_pow 2 sh, Nat.cast_ofNat]

/-- A mantissa that is shifted down to 53 places fills them. -/
private theorem le_shifted {m sh : Nat} (hm : 0 < m) (hsh : m.log2 = 52 + sh) :
    ((2 ^ 52 : Nat) : ℚ) ≤ m / 2 ^ sh := by
  have hle : 2 ^ (52 + sh) ≤ m := hsh ▸ Nat.log2_self_le (Nat.ne_of_gt hm)
  have hcast : ((2 ^ (52 + sh) : Nat) : ℚ) ≤ m := by exact_mod_cast hle
  rw [le_div_iff₀ (pow_pos (by norm_num) sh)]
  refine Eq.trans_le ?_ hcast
  rw [pow_add, Nat.cast_mul, Nat.cast_pow 2 sh, Nat.cast_ofNat]

/-- The rounded mantissa loses a place that it got, and is packed: as infinity if its exponent is too large by
    then. -/
private theorem pack_shift_cases {k : Nat} {t : ℤ} {s : Sign} (hk : k ≤ 2 ^ 53)
    (hfull : 2 ^ 52 ≤ k ∨ t = -1074) (hlow : -1074 ≤ t) {x : Float}
    (hx : x = .ofModel (.pack (if h :
        (UnpackedFloat.shiftToTargetExponent Format.binary64 k t .exact).1.mantissa = 0 then .zero s
      else .finite s (UnpackedFloat.shiftToTargetExponent Format.binary64 k t .exact).1.mantissa
        (UnpackedFloat.shiftToTargetExponent Format.binary64 k t .exact).2 (Nat.pos_of_ne_zero h)))) :
    Denotes x (Binary.toRat ⟨s == .negative, k, t⟩) ∨ 970 < t ∧ value x = .infinite (s == .negative) := by
  subst hx
  rcases Nat.lt_or_ge k (2 ^ 53) with hlt | hge
  · rw [shift_of_lt hlt hlow]
    dsimp only
    rcases Nat.eq_zero_or_pos k with rfl | hpos
    · rw [dif_pos rfl]
      exact Or.inl ⟨_, value_pack_zero s, by simp [Binary.toRat]⟩
    · rw [dif_neg (Nat.ne_of_gt hpos)]
      rcases le_or_gt t 971 with hfits | hlarge
      · exact Or.inl ⟨_, value_pack_finite _ ⟨hlt, hlow, hfits, hfull⟩, rfl⟩
      · exact Or.inr ⟨by omega, value_pack_infinite _ hlarge⟩
  · obtain rfl : k = 2 ^ 53 := Nat.le_antisymm hk hge
    rw [shift_of_carry hlow]
    dsimp only
    rw [dif_neg (by norm_num)]
    rcases le_or_gt t 970 with hfits | hlarge
    · refine Or.inl ⟨_, value_pack_finite _ ⟨?_, ?_, ?_, Or.inl le_rfl⟩, ?_⟩
      · norm_num
      · dsimp only
        omega
      · dsimp only
        omega
      · simp only [Binary.toRat]
        rw [zpow_add_one₀ (by norm_num)]
        norm_num
        ring_nf
    · exact Or.inr ⟨hlarge, value_pack_infinite _ (by omega)⟩

/-- What doubles make of an exact value. The sign is kept, and the magnitude is rounded in units of the last
    place. -/
def Rounded (q r : ℚ) : Prop :=
  0 ≤ q * r ∧ ∃ k : Nat, |r| = k * 2 ^ unit q ∧ Nearest (|q| / 2 ^ unit q) k

theorem rounded_zero : Rounded 0 0 := by
  refine ⟨by norm_num, 0, by simp, ?_, ?_, ?_⟩ <;> norm_num

theorem abs_toRat (b : Binary) : |b.toRat| = b.mantissa * 2 ^ b.exponent := by
  have hnonneg : (0 : ℚ) ≤ b.mantissa * 2 ^ b.exponent :=
    mul_nonneg (Nat.cast_nonneg _) (zpow_nonneg (by norm_num) _)
  unfold Binary.toRat
  split
  · rw [abs_neg, abs_of_nonneg hnonneg]
  · rw [abs_of_nonneg hnonneg]

/-- The last place of a rounded number is the exponent that the library gives it. -/
theorem unit_toRat {m : Nat} (hm : 0 < m) (negative : Bool) (e : ℤ) :
    unit (Binary.toRat ⟨negative, m, e⟩) = max (m.log2 + e - 52) (-1074) := by
  rw [unit, abs_toRat, log_magnitude hm]

/-- Two values of one sign. -/
theorem toRat_mul_toRat_nonneg (negative : Bool) (m n : Nat) (e f : ℤ) :
    0 ≤ Binary.toRat ⟨negative, m, e⟩ * Binary.toRat ⟨negative, n, f⟩ := by
  have hnonneg (n : Nat) (f : ℤ) : (0 : ℚ) ≤ n * 2 ^ f :=
    mul_nonneg (Nat.cast_nonneg n) (zpow_nonneg (by norm_num) f)
  cases negative with
  | false => exact mul_nonneg (hnonneg m e) (hnonneg n f)
  | true =>
    simp only [Binary.toRat, if_true, neg_mul_neg]
    exact mul_nonneg (hnonneg m e) (hnonneg n f)

/-- A value that has places enough, or lies among the least doubles, is rounded. Infinity takes its place only if
    it is too large. -/
theorem pack_round_cases {s : Sign} {m : Nat} {e : ℤ} (hm : 0 < m) (hplaces : 52 ≤ m.log2 ∨ e ≤ -1074) :
    (∃ r, Denotes (.ofModel (.pack (UnpackedFloat.roundWithAccuracy Format.binary64 s m e .exact))) r ∧
      Rounded (Binary.toRat ⟨s == .negative, m, e⟩) r) ∨
      970 < unit (Binary.toRat ⟨s == .negative, m, e⟩) ∧
        value (.ofModel (.pack (UnpackedFloat.roundWithAccuracy Format.binary64 s m e .exact))) =
          .infinite (s == .negative) := by
  have hunit := unit_toRat hm (s == .negative) e
  rw [hunit]
  generalize ht : max (m.log2 + e - 52) (-1074) = t at hunit ⊢
  obtain ⟨sh, hsh⟩ : ∃ sh : Nat, (t - e).toNat = sh := ⟨_, rfl⟩
  have hexponent : e + sh = t := by omega
  have hquotient : (m : ℚ) * 2 ^ e / 2 ^ t = m / 2 ^ sh := by
    rw [← hexponent, zpow_add₀ (by norm_num), zpow_natCast]
    field_simp
  have hstart : Places ⟨m, false, false⟩ (m : ℚ) := rfl
  have hnearest := (hstart.shiftRight sh).nearest
  have hfull : 2 ^ 52 ≤ (ExtendedMantissa.mk m false false >>> sh).roundedMantissa ∨ t = -1074 := by
    by_cases hleast : t = -1074
    · exact Or.inr hleast
    · exact Or.inl (hnearest.ge (le_shifted hm (by omega)))
  rw [UnpackedFloat.roundWithAccuracy, shift_eq, ht, hsh, hexponent]
  refine (pack_shift_cases (hnearest.le (shifted_le (by omega))) hfull (by omega) rfl).imp_left fun hpacked => ?_
  refine ⟨_, hpacked, toRat_mul_toRat_nonneg _ _ _ _ _, (ExtendedMantissa.mk m false false >>> sh).roundedMantissa,
    ?_, ?_⟩
  · rw [abs_toRat, hunit]
  · rw [abs_toRat, hunit, hquotient]
    exact hnearest

/-- A number whose exponent fits is rounded to a double that stands for the nearest multiple of its
    last place. -/
theorem denotes_pack_round {s : Sign} {m : Nat} {e : ℤ} (hm : 0 < m) (hplaces : 52 ≤ m.log2 ∨ e ≤ -1074)
    (hfits : unit (Binary.toRat ⟨s == .negative, m, e⟩) ≤ 970) :
    ∃ r, Denotes (.ofModel (.pack (UnpackedFloat.roundWithAccuracy Format.binary64 s m e .exact))) r ∧
      Rounded (Binary.toRat ⟨s == .negative, m, e⟩) r :=
  (pack_round_cases hm hplaces).resolve_right fun hlarge => absurd hfits (not_le.2 hlarge.1)

/-- The product of two doubles without rounding is that of their fractions. -/
theorem Binary.toRat_mul (a b : Binary) : (a.mul b).toRat = a.toRat * b.toRat := by
  obtain ⟨s, m, e⟩ := a
  obtain ⟨t, n, f⟩ := b
  have hpower : (2 : ℚ) ^ (e + f) = 2 ^ e * 2 ^ f := zpow_add₀ (by norm_num) e f
  cases s <;> cases t <;> simp [Binary.toRat, Binary.mul, hpower] <;> ring

/-- A packed zero stands for zero, whatever its sign. -/
theorem denotes_pack_zero (s : Sign) : Denotes (.ofModel (.pack (.zero s))) 0 :=
  ⟨_, value_pack_zero s, by simp [Binary.toRat]⟩

/-- A product that is not too large is rounded. -/
theorem Denotes.mul {x y : Float} {p q : ℚ} (hx : Denotes x p) (hy : Denotes y q) (hfits : unit (p * q) ≤ 970) :
    ∃ r, Denotes (x * y) r ∧ Rounded (p * q) r := by
  have hproduct : x * y = .ofModel (.pack (UnpackedFloat.mul Format.binary64 x.toModel.unpack y.toModel.unpack)) :=
    rfl
  rw [hproduct]
  obtain ⟨s, hs, rfl⟩ | ⟨s, m, e, hm, hs, rfl, ha⟩ := hx.parts
  · rw [hs, zero_mul]
    obtain ⟨t, ht, -⟩ | ⟨t, n, f, hn, ht, -⟩ := hy.parts <;> rw [ht]
    · exact ⟨0, denotes_pack_zero _, rounded_zero⟩
    · exact ⟨0, denotes_pack_zero _, rounded_zero⟩
  · rw [hs]
    obtain ⟨t, ht, rfl⟩ | ⟨t, n, f, hn, ht, rfl, hb⟩ := hy.parts <;> rw [ht]
    · rw [mul_zero]
      exact ⟨0, denotes_pack_zero _, rounded_zero⟩
    · have hsign : ((s == .negative) != (t == .negative)) = (s * t == .negative) := by
        cases s <;> cases t <;> rfl
      rw [← Binary.toRat_mul, Binary.mul, hsign] at hfits ⊢
      apply denotes_pack_round (Nat.mul_pos hm hn) _ hfits
      rcases ha.full with hfull | hleast
      · exact Or.inl ((Nat.le_log2 (by positivity)).2 (hfull.trans (Nat.le_mul_of_pos_right m hn)))
      · rcases hb.full with hfull | hleast'
        · exact Or.inl ((Nat.le_log2 (by positivity)).2 (hfull.trans (Nat.le_mul_of_pos_left n hm)))
        · dsimp only at hleast hleast' ⊢
          omega

/-- Writing a value with more places does not change it. -/
theorem toRat_decreaseExponent (negative : Bool) (m sh : Nat) (e : ℤ) :
    Binary.toRat ⟨negative, m <<< sh, e - sh⟩ = Binary.toRat ⟨negative, m, e⟩ := by
  have hpower : (2 : ℚ) ^ sh * 2 ^ (e - sh) = 2 ^ e := by
    rw [← zpow_natCast, ← zpow_add₀ (by norm_num)]
    congr 1
    omega
  simp only [Binary.toRat, Nat.shiftLeft_eq, Nat.cast_mul, Nat.cast_pow, Nat.cast_ofNat, mul_assoc, hpower]

/-- Shifting a mantissa to the left makes it as many places longer. -/
theorem log2_shiftLeft {m : Nat} (hm : 0 < m) (sh : Nat) : (m <<< sh).log2 = m.log2 + sh := by
  have hlow := Nat.log2_self_le (Nat.ne_of_gt hm)
  have hhigh := Nat.lt_log2_self (n := m)
  have hpos : 0 < 2 ^ sh := Nat.two_pow_pos sh
  rw [Nat.shiftLeft_eq, Nat.log2_eq_iff (Nat.ne_of_gt (Nat.mul_pos hm hpos))]
  constructor
  · rw [pow_add]
    exact Nat.mul_le_mul_right _ hlow
  · rw [Nat.add_right_comm, pow_add]
    exact Nat.mul_lt_mul_of_pos_right hhigh hpos

/-- Rounding a value that may have too few places. -/
theorem denotes_pack_spread_round {s : Sign} {m : Nat} {e : ℤ} (hm : 0 < m)
    (hfits : unit (Binary.toRat ⟨s == .negative, m, e⟩) ≤ 970) :
    ∃ r, Denotes (.ofModel (.pack (UnpackedFloat.round Format.binary64 s m e))) r ∧
      Rounded (Binary.toRat ⟨s == .negative, m, e⟩) r := by
  obtain ⟨sh, hsh⟩ : ∃ sh : Nat, (e - max (m.log2 + e - 52) (-1074)).toNat = sh := ⟨_, rfl⟩
  have hround : UnpackedFloat.round Format.binary64 s m e =
      UnpackedFloat.roundWithAccuracy Format.binary64 s (m <<< sh) (e - sh) .exact := by
    rw [UnpackedFloat.round, targetExponent_eq, UnpackedFloat.decreaseExponent, hsh]
  have hpos : 0 < m <<< sh := by
    rw [Nat.shiftLeft_eq]
    exact Nat.mul_pos hm (Nat.two_pow_pos sh)
  rw [← toRat_decreaseExponent _ m sh e] at hfits ⊢
  rw [hround]
  apply denotes_pack_round hpos _ hfits
  rw [log2_shiftLeft hm]
  omega

/-- A sign on the mantissa is a sign on the fraction. -/
theorem apply_mul_zpow (s : Sign) (k : Nat) (e : ℤ) :
    (s.apply k : ℚ) * 2 ^ e = Binary.toRat ⟨s == .negative, k, e⟩ := by
  cases s with
  | negative => rw [toRat_negative, Sign.apply, Int.cast_neg, Int.cast_natCast, neg_mul]
  | positive => rw [toRat_positive, Sign.apply, Int.cast_natCast]

/-- An integer mantissa of any length is brought to its places and then rounded to the nearest
    multiple of its last place. -/
theorem denotes_pack_normalize {m e : ℤ} (hfits : unit ((m : ℚ) * 2 ^ e) ≤ 970) :
    ∃ r, Denotes (.ofModel (.pack (UnpackedFloat.normalize Format.binary64 m e .positive))) r ∧
      Rounded ((m : ℚ) * 2 ^ e) r := by
  rcases lt_trichotomy m 0 with hneg | rfl | hpos
  · have hm : m = Sign.negative.apply ((-m).toNat : Nat) := by
      simp only [Sign.apply]
      omega
    have hvalue := apply_mul_zpow .negative (-m).toNat e
    rw [← hm] at hvalue
    rw [UnpackedFloat.normalize, compare_lt_iff_lt.2 hneg]
    rw [hvalue] at hfits ⊢
    exact denotes_pack_spread_round (by omega) hfits
  · rw [UnpackedFloat.normalize, compare_eq_iff_eq.2 rfl, Int.cast_zero, zero_mul]
    exact ⟨0, denotes_pack_zero _, rounded_zero⟩
  · have hm : m = Sign.positive.apply (m.toNat : Nat) := by
      simp only [Sign.apply]
      omega
    have hvalue := apply_mul_zpow .positive m.toNat e
    rw [← hm] at hvalue
    rw [UnpackedFloat.normalize, compare_gt_iff_gt.2 hpos]
    rw [hvalue] at hfits ⊢
    exact denotes_pack_spread_round (by omega) hfits

/-- A sum of two doubles other than zero is rounded, if it is not too large. -/
theorem Denotes.add {x y : Float} {p q : ℚ} (hx : Denotes x p) (hy : Denotes y q) (hp : p ≠ 0) (hq : q ≠ 0)
    (hfits : unit (p + q) ≤ 970) : ∃ r, Denotes (x + y) r ∧ Rounded (p + q) r := by
  have hsum : x + y = .ofModel (.pack (UnpackedFloat.add Format.binary64 x.toModel.unpack y.toModel.unpack)) :=
    rfl
  rw [hsum]
  obtain ⟨s, hs, rfl⟩ | ⟨s, m, e, hm, hs, rfl, -⟩ := hx.parts
  · exact absurd rfl hp
  · obtain ⟨t, ht, rfl⟩ | ⟨t, n, f, hn, ht, rfl, -⟩ := hy.parts
    · exact absurd rfl hq
    · have hleft : e - (e - min e f).toNat = min e f := by omega
      have hright : f - (f - min e f).toNat = min e f := by omega
      have hvalue : Binary.toRat ⟨s == .negative, m, e⟩ + Binary.toRat ⟨t == .negative, n, f⟩ =
          ((s.apply (m <<< (e - min e f).toNat : Nat) + t.apply (n <<< (f - min e f).toNat : Nat) : ℤ) : ℚ) *
            2 ^ min e f := by
        rw [← toRat_decreaseExponent _ m (e - min e f).toNat e, hleft,
          ← toRat_decreaseExponent _ n (f - min e f).toNat f, hright, Int.cast_add, add_mul, apply_mul_zpow,
          apply_mul_zpow]
      rw [hvalue] at hfits ⊢
      rw [hs, ht]
      exact denotes_pack_normalize hfits

/-- Below fifty-three places a last place is no more than one. -/
theorem unit_nonpos {q : ℚ} (hq : |q| < 2 ^ 53) : unit q ≤ 0 := by
  have hlog : Int.log 2 |q| < 53 := by
    rcases eq_or_ne q 0 with rfl | hne
    · rw [abs_zero, Int.log_zero_right]
      norm_num
    · rw [← Int.lt_zpow_iff_log_lt (by norm_num) (abs_pos.2 hne)]
      exact_mod_cast hq
  rw [unit]
  omega

/-- In units of the last place of a value, a natural number is one. -/
theorem cast_div_unit {q : ℚ} (hq : |q| < 2 ^ 53) (n : Nat) :
    (n : ℚ) / 2 ^ unit q = (n * 2 ^ (-unit q).toNat : Nat) := by
  have hunit : unit q = -((-unit q).toNat : ℤ) := by
    have := unit_nonpos hq
    omega
  rw [Nat.cast_mul, Nat.cast_pow, ← zpow_natCast]
  conv_lhs => rw [hunit, zpow_neg, div_inv_eq_mul]
  norm_num

namespace Rounded

variable {q r : ℚ} {n : Nat}

/-- Rounding does not pass a natural number below fifty-three places. -/
theorem abs_le (h : Rounded q r) (hq : |q| < 2 ^ 53) (hle : |q| ≤ n) : |r| ≤ n := by
  obtain ⟨-, k, hr, hk⟩ := h
  have hpower : (0 : ℚ) < 2 ^ unit q := zpow_pos (by norm_num) _
  rw [← div_le_div_iff_of_pos_right hpower, cast_div_unit hq] at hle
  rw [hr, ← le_div_iff₀ hpower, cast_div_unit hq]
  exact_mod_cast hk.le hle

/-- A number that is not below a natural number in magnitude is not rounded below it. -/
theorem le_abs (h : Rounded q r) (hq : |q| < 2 ^ 53) (hle : n ≤ |q|) : n ≤ |r| := by
  obtain ⟨-, k, hr, hk⟩ := h
  have hpower : (0 : ℚ) < 2 ^ unit q := zpow_pos (by norm_num) _
  rw [← div_le_div_iff_of_pos_right hpower, cast_div_unit hq] at hle
  rw [hr, ← div_le_iff₀ hpower, cast_div_unit hq]
  exact_mod_cast hk.ge hle

/-- A positive number is not rounded below zero. -/
theorem nonneg (h : Rounded q r) (hpos : 0 < q) : 0 ≤ r :=
  nonneg_of_mul_nonneg_right h.1 hpos

/-- A positive number that is not above a natural number is not rounded above it. -/
theorem le_natCast (h : Rounded q r) (hpos : 0 < q) (hq : |q| < 2 ^ 53) (hle : q ≤ n) : r ≤ n :=
  (le_abs_self r).trans (h.abs_le hq (by rwa [abs_of_pos hpos]))

/-- A positive number that is not below a natural number is not rounded below it. -/
theorem natCast_le (h : Rounded q r) (hpos : 0 < q) (hq : |q| < 2 ^ 53) (hle : n ≤ q) : n ≤ r := by
  rw [← abs_of_nonneg (h.nonneg hpos)]
  exact h.le_abs hq (by rwa [abs_of_pos hpos])

end Rounded

end SpriteStage.Number
