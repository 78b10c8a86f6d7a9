import SpriteStage.Engine.Cursor
import SpriteStage.Proofs.Number.Naturals

namespace SpriteStage

/-- There are as many copies as the count rounded up says, or as many as the limit allows if that is
    no more. -/
theorem copies_eq_natCeil_or (times : Float) (limit : Nat) :
    ((copies times limit : Nat) : ℕ∞) = Number.natCeil times ∨
      copies times limit = limit ∧ (limit : ℕ∞) ≤ Number.natCeil times := by
  cases hvalue : Number.value times with
  | nan => simp [copies, Number.natCeil, hvalue]
  | infinite negative => cases negative <;> simp [copies, Number.natCeil, hvalue]
  | finite b =>
    rw [Number.natCeil_of_finite hvalue, copies, hvalue]
    dsimp only
    split
    case isTrue hless =>
      exact Or.inr ⟨rfl, by exact_mod_cast (Number.lt_ceil_of_ofInt_lt hvalue hless).le⟩
    case isFalse => exact Or.inl rfl

/-- Up to the limit, what a count asks for is the count rounded up. -/
theorem min_copies (times : Float) (limit : Nat) :
    min ((copies times limit : Nat) : ℕ∞) limit = min (Number.natCeil times) limit := by
  rcases copies_eq_natCeil_or times limit with hcount | ⟨hlimit, hle⟩
  · rw [hcount]
  · rw [hlimit, min_self, min_eq_right hle]

/-- A limit that is a double itself is kept to. -/
theorem copies_le {limit : Nat} (hlimit : limit ≤ 2 ^ 53) (times : Float) : copies times limit ≤ limit := by
  unfold copies
  split
  case h_1 => exact Nat.zero_le limit
  case h_2 => split <;> omega
  case h_3 b hvalue =>
    split
    case isTrue => exact le_rfl
    case isFalse hless => rwa [Number.ofInt_lt_iff hvalue hlimit, not_lt] at hless

/-- Up to the limit at which doubles begin to leave out natural numbers, the number of copies is the
    smaller of the count rounded up and the limit. -/
theorem copies_eq_min {limit : Nat} (hlimit : limit ≤ 2 ^ 53) (times : Float) :
    ((copies times limit : Nat) : ℕ∞) = min (Number.natCeil times) limit := by
  rw [← min_copies, min_eq_left (Nat.cast_le.2 (copies_le hlimit times))]

namespace Chain

/-- The induction is on the number of copies, with what follows them growing by one copy in each step. -/
theorem spliceCopies_eq (c : Chain) (first count : Nat) (rest : List Block) :
    c.spliceCopies first count rest =
      (List.range count).map (fun i => c.head.copy (first + i + 1)) ++ rest := by
  induction count generalizing rest with
  | zero => rfl
  | succ count ih =>
    rw [spliceCopies, ih, List.range_succ, List.map_append, List.append_assoc]
    rfl

/-- A repeat puts exactly the copies that it asks for in front of its successor. Without a block before it, or
    with a count that is NaN or not positive, there is only the successor, and no number is used. Otherwise the
    count is rounded up and cut down to the limit, and so many copies precede the unchanged successor: each is the
    block before the repeat, without what followed that, under an id made from the old one and the next number. -/
theorem expandRepeat_splices_copies {limit : Nat} (hlimit : limit ≤ 2 ^ 53) (times : Float)
    (successor : List Block) (serial : Nat) :
    expandRepeat none times successor limit serial = (successor, serial) ∧
      ∀ template : Chain,
        (Number.isNaN times = true ∨ times ≤ 0 →
          expandRepeat (some template) times successor limit serial = (successor, serial)) ∧
        (¬ (Number.isNaN times = true ∨ times ≤ 0) →
          ∃ (blocks : List Block) (count : Nat),
            expandRepeat (some template) times successor limit serial = (blocks, serial + count) ∧
            (count : ℕ∞) = min (Number.natCeil times) limit ∧
            (∀ i < count, blocks[i]? = some { template.head with
              id := template.head.id ++ "~" ++ toString (serial + (i + 1)) }) ∧
            blocks.drop count = successor ∧
            blocks.length = count + successor.length) := by
  refine ⟨rfl, fun template => ⟨fun hnone => ?_, fun hsome => ?_⟩⟩
  · have hcount := copies_eq_min hlimit times
    rw [(Number.natCeil_eq_zero_iff times).2 hnone, min_eq_left zero_le, Nat.cast_eq_zero] at hcount
    simp only [expandRepeat, hcount]
    rfl
  · refine ⟨_, copies times limit, rfl, copies_eq_min hlimit times, ?_, ?_, ?_⟩
    · intro i hi
      rw [spliceCopies_eq, List.getElem?_append_left (by simpa using hi)]
      simp [hi, Block.copy, Nat.add_assoc]
    · rw [spliceCopies_eq, List.drop_left' (by simp)]
    · rw [spliceCopies_eq]
      simp

/-- A count of a little more than two asks for three copies, and the block behind the template is not copied. -/
theorem expandRepeat_splices_copies_rounding_up :
    let template : Chain := ⟨⟨"m", "move", [("x_position", .int 10)], [⟨"d", "say", [], [], []⟩], [("x", .int 5)]⟩,
      [⟨"old", "repeat", [], [], []⟩]⟩
    let successor : List Block := [⟨"s", "say", [("message", .str "there")], [], []⟩]
    100 ≤ 2 ^ 53 ∧ ¬ (Number.isNaN 2.2 = true ∨ (2.2 : Float) ≤ 0) ∧
      ∃ blocks, expandRepeat (some template) 2.2 successor 100 7 = (blocks, 10) ∧
        (∀ i < 3, blocks[i]? = some { template.head with id := "m" ++ "~" ++ toString (7 + (i + 1)) }) ∧
        blocks.drop 3 = successor ∧ blocks.length = 4 := by
  intro template successor
  have hpositive : ¬ (Number.isNaN 2.2 = true ∨ (2.2 : Float) ≤ 0) := by decide +kernel
  have hvalue : Number.value 2.2 = .finite ⟨false, 4953959590107546, -51⟩ := by decide +kernel
  have hceil : Number.Binary.ceil ⟨false, 4953959590107546, -51⟩ = 3 := by decide
  have hlimit : 100 ≤ 2 ^ 53 := by norm_num
  obtain ⟨-, hchain⟩ := expandRepeat_splices_copies hlimit 2.2 successor 7
  obtain ⟨blocks, count, hresult, hcount, hcopies, hrest, hlength⟩ := (hchain template).2 hpositive
  rw [Number.natCeil_of_finite hvalue, hceil, ← Nat.mono_cast.map_min, Nat.cast_inj] at hcount
  obtain rfl : count = 3 := hcount
  exact ⟨hlimit, hpositive, blocks, hresult, hcopies, hrest, hlength⟩

end Chain

namespace Block

variable (times : Float) (successor : List Block) (limit serial : Nat)

@[simp] theorem expandRepeat_none :
    expandRepeat none times successor limit serial = (successor, serial) := rfl

/-- The copies stand in front of the successor in the order of their numbers. -/
@[simp] theorem expandRepeat_some (b : Block) :
    expandRepeat (some b) times successor limit serial =
      ((List.range (copies times limit)).map (fun i => b.copy (serial + i + 1)) ++ successor,
        serial + copies times limit) := by
  rw [expandRepeat, Option.map_some, Chain.expandRepeat, Chain.spliceCopies_eq]

end Block

namespace Cursor

variable (times : Float) (limit : Nat) (c : Cursor)

@[simp] theorem splice_none : c.splice none times limit = c := rfl

/-- The copies of a block come before what was due, and each of them has taken a number. -/
@[simp] theorem splice_some (b : Block) :
    c.splice (some b) times limit =
      { c with
        rest := (List.range (copies times limit)).map (fun i => b.copy (c.serial + i + 1)) ++ c.rest
        serial := c.serial + copies times limit } := by
  rw [splice, Block.expandRepeat_some]

end Cursor

end SpriteStage
