import SpriteStage.Proofs.Cursor.Expansion
import SpriteStage.Proofs.Program.Clean
import SpriteStage.Proofs.Runs

namespace SpriteStage

namespace Block

/-- What a block does when it is dispatched, whatever its id. -/
def content (b : Block) : String × List (String × Json) :=
  (b.typeId, b.fields)

/-- Blocks with the same content are of the same kind. -/
theorem is_congr {a b : Block} (hcontent : a.content = b.content) (kind : BlockKind) :
    a.is kind = b.is kind := by
  have htype : a.typeId = b.typeId := congrArg Prod.fst hcontent
  rw [is, is, htype]

/-- The copies that a repeat asks for: its count rounded up, and one if it has no count. -/
def extraCopies (b : Block) : ℕ∞ :=
  match b.field? "TIMES" with
  | none => 1
  | some value =>
    match Number.value value.number with
    | .nan => 0
    | .infinite negative => if negative then 0 else ⊤
    | .finite times => ⌈times.toRat⌉₊

/-- The runs that a row of blocks stands for behind a block that a repeat would copy. -/
def unroll (last : Option Block) : List Block → List (Block × ℕ∞)
  | [] => []
  | b :: rest =>
    if b.is .repeatAbove then
      (b, 1) :: (last.toList.map fun copied => (copied, b.extraCopies)) ++ unroll last rest
    else (b, 1) :: unroll (some b) rest

/-- A block that is no repeat stands once, and is what the next repeat copies. -/
theorem unroll_cons_block {b : Block} (hblock : b.is .repeatAbove = false) (last : Option Block)
    (rest : List Block) : unroll last (b :: rest) = (b, 1) :: unroll (some b) rest := by
  simp [unroll, hblock]

/-- A repeat stands once, with its copies behind it, and the next repeat copies the same block
    again. -/
theorem unroll_cons_repeat {b : Block} (hrepeat : b.is .repeatAbove = true) (last : Block)
    (rest : List Block) :
    unroll (some last) (b :: rest) = (b, 1) :: (last, b.extraCopies) :: unroll (some last) rest := by
  simp [unroll, hrepeat]

/-- An unrolling with a first block is not empty. -/
theorem length_unroll_pos (last : Option Block) (b : Block) (rest : List Block) :
    0 < Runs.length (unroll last (b :: rest)) := by
  rw [unroll]
  split <;> exact lt_of_lt_of_le zero_lt_one le_self_add

/-- A count that is at least one is taken as it is. -/
theorem isNumber_or_isTruthy {value : Json} (hless : Number.less value.number 1 = false) :
    (value.isNumber || value.isTruthy) = true := by
  have hzero : Number.less 0 1 = true := by decide +kernel
  cases value with
  | null =>
    rw [Json.number, hzero] at hless
    cases hless
  | bool flag =>
    cases flag with
    | false =>
      rw [Json.number, if_neg nofun, hzero] at hless
      cases hless
    | true => rfl
  | int | double | arr | obj => rfl
  | str s =>
    cases hempty : s.isEmpty with
    | false => simp [Json.isTruthy, hempty]
    | true =>
      have hnumber : (Json.str "").number = 0 := rfl
      rw [String.isEmpty_iff.1 hempty, hnumber, hzero] at hless
      cases hless

/-- What a clean repeat counts is the number in its field, or one if it has none. -/
theorem CountsUp.repeatTimes_eq {b : Block} (h : b.CountsUp) :
    b.repeatTimes = (b.field? "TIMES").elim 1 Json.number := by
  unfold Block.repeatTimes
  cases hvalue : b.field? "TIMES" with
  | none => rfl
  | some value => exact if_pos (isNumber_or_isTruthy (h value hvalue).2)

private theorem value_one : Number.value 1 = .finite ⟨false, 2 ^ 52, -52⟩ := by decide +kernel

theorem natCeil_one : Number.natCeil 1 = 1 := by
  rw [Number.natCeil_of_finite value_one]
  rfl

/-- The count of a repeat that counts up, rounded up, is the number of its copies, and without a
    count one copy is made. -/
theorem natCeil_repeatTimes {b : Block} (hb : b.CountsUp) : Number.natCeil b.repeatTimes = b.extraCopies := by
  rw [hb.repeatTimes_eq, extraCopies]
  cases b.field? "TIMES" with
  | none => exact natCeil_one
  | some value => rfl

/-- A clean repeat makes the copies that its count asks for, up to the limit. -/
theorem min_copies_repeatTimes {b : Block} (hb : b.CountsUp) (limit : Nat) :
    min ((copies b.repeatTimes limit : Nat) : ℕ∞) limit = min b.extraCopies limit := by
  rw [min_copies, natCeil_repeatTimes hb]

/-- What is not below one is not rounded up to zero. -/
private theorem ceil_pos {times : Number.Binary} (hless : times.less ⟨false, 2 ^ 52, -52⟩ = false) :
    0 < times.ceil := by
  obtain ⟨negative, m, e⟩ := times
  have hpow (k : Nat) : 0 < Int.pow 2 k := Int.pow_pos (by decide)
  have hone : 0 < (2 ^ 52 : Int) * Int.pow 2 (-52 - min e (-52)).toNat :=
    Int.mul_pos (by decide) (hpow _)
  cases negative with
  | true =>
    have hle : 0 ≤ (m : Int) * Int.pow 2 (e - min e (-52)).toNat :=
      Int.mul_nonneg (Int.natCast_nonneg m) (hpow _).le
    simp only [Number.Binary.less, Number.Binary.scaled, decide_eq_false_iff_not, if_true,
      Bool.false_eq_true, if_false, Nat.cast_pow, Nat.cast_ofNat] at hless
    omega
  | false =>
    have hm : 0 < m := by
      by_contra hzero
      simp only [Number.Binary.less, Number.Binary.scaled, decide_eq_false_iff_not,
        Bool.false_eq_true, if_false, Nat.cast_pow, Nat.cast_ofNat, Nat.eq_zero_of_not_pos hzero,
        Nat.cast_zero, zero_mul] at hless
      exact hless hone
    simp only [Number.Binary.ceil, Bool.false_eq_true, if_false]
    split
    · exact Nat.mul_pos hm (Nat.two_pow_pos _)
    · have hunit := Nat.two_pow_pos (-e).toNat
      exact Nat.div_pos (by omega) hunit

/-- A repeat that counts up makes a copy. -/
theorem one_le_extraCopies {b : Block} (hb : b.CountsUp) : 1 ≤ b.extraCopies := by
  rw [extraCopies]
  cases hvalue : b.field? "TIMES" with
  | none => exact le_refl 1
  | some value =>
    obtain ⟨hnumber, hless⟩ := hb value hvalue
    rw [Number.isNaN] at hnumber
    rw [Number.less, value_one] at hless
    dsimp only
    cases hcount : Number.value value.number with
    | nan => simp [hcount] at hnumber
    | infinite negative =>
      cases negative with
      | true => simp [hcount] at hless
      | false => exact le_top
    | finite times =>
      rw [hcount] at hless
      dsimp only
      rw [← times.ceil_eq_natCeil]
      exact_mod_cast ceil_pos hless

end Block

/-- The chain with its repeats written out. -/
def Chain.unrolling (c : Chain) : List (Block × ℕ∞) :=
  Block.unroll none c.toList

end SpriteStage
