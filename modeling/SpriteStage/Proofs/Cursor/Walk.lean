import SpriteStage.Engine.Task
import SpriteStage.Proofs.Cursor.Expansion

namespace SpriteStage

namespace Cursor

/-- The place behind a block once it was carried out: a repeat has put its copies there. -/
def pass (limit : Nat) (b : Block) (rest : List Block) (c : Cursor) : Cursor :=
  if b.is .repeatAbove then (c.leave b rest).splice c.previous b.repeatTimes limit else c.leave b rest

/-- A block is due if one is left and the limit is not reached. -/
theorem advance_eq_due_iff {limit : Nat} {c behind : Cursor} {b : Block} :
    c.advance limit = .due b behind ↔
      ∃ rest, c.rest = b :: rest ∧ c.steps < limit ∧ behind = c.leave b rest := by
  unfold advance
  split
  case h_1 hrest => simp [hrest]
  case h_2 first rest hrest =>
    split
    case isTrue hlimit => simp [hrest, Nat.not_lt.2 hlimit]
    case isFalse hlimit =>
      rw [Turn.due.injEq, hrest]
      constructor
      · rintro ⟨rfl, rfl⟩
        exact ⟨rest, rfl, Nat.lt_of_not_le hlimit, rfl⟩
      · rintro ⟨other, hother, -, rfl⟩
        obtain ⟨rfl, rfl⟩ := List.cons.inj hother
        exact ⟨rfl, rfl⟩

/-- The next `n` blocks, or all of them if there are fewer, and the place behind them. -/
def walk (limit : Nat) : Nat → Cursor → List Block × Cursor
  | 0, c => ([], c)
  | n + 1, c =>
    match c.rest with
    | [] => ([], c)
    | b :: rest =>
      let (blocks, last) := walk limit n (c.pass limit b rest)
      (b :: blocks, last)

/-- A walk of some steps passes no more blocks than that. -/
theorem length_walk_le (limit n : Nat) (c : Cursor) : (walk limit n c).1.length ≤ n := by
  induction n generalizing c with
  | zero => exact Nat.le_refl 0
  | succ n ih =>
    unfold walk
    split
    case h_1 => exact Nat.zero_le _
    case h_2 b rest _ => exact Nat.succ_le_succ (ih (c.pass limit b rest))

/-- A walk that stops before the end of the chain has all the blocks that it was to have. -/
theorem length_walk {limit n : Nat} {c : Cursor} (hrest : (walk limit n c).2.rest ≠ []) :
    (walk limit n c).1.length = n := by
  induction n generalizing c with
  | zero => rfl
  | succ n ih =>
    unfold walk at hrest ⊢
    split at hrest
    case h_1 hend => exact absurd hend hrest
    case h_2 => exact congrArg (· + 1) (ih hrest)

/-- Passing a block counts one step. -/
@[simp] theorem steps_pass (limit : Nat) (b : Block) (rest : List Block) (c : Cursor) :
    (c.pass limit b rest).steps = c.steps + 1 := by
  unfold pass
  split <;> rfl

/-- Every block that is due has the property, and so has the block before them. -/
def All (P : Block → Prop) (c : Cursor) : Prop :=
  (∀ b ∈ c.rest, P b) ∧ ∀ b ∈ c.previous, P b

variable {P : Block → Prop}

/-- What copies have from their block stays true along a chain. -/
theorem All.pass {c : Cursor} (h : c.All P) (hcopy : ∀ b number, P b → P (b.copy number)) (limit : Nat)
    {b : Block} {rest : List Block} (hrest : c.rest = b :: rest) : (c.pass limit b rest).All P := by
  obtain ⟨hdue, hprevious⟩ := h
  rw [hrest, List.forall_mem_cons] at hdue
  obtain ⟨hb, hbehind⟩ := hdue
  have hlast : ∀ last ∈ some b, P last := by simpa using hb
  unfold Cursor.pass
  split
  case isFalse => exact ⟨hbehind, hlast⟩
  case isTrue =>
    refine ⟨?_, hlast⟩
    cases hfound : c.previous with
    | none => exact hbehind
    | some last =>
      rw [splice_some]
      intro other hother
      rcases List.mem_append.1 hother with hcopied | hmem
      · obtain ⟨i, -, rfl⟩ := List.mem_map.1 hcopied
        exact hcopy last _ (hprevious last hfound)
      · exact hbehind other hmem

/-- What holds of the blocks at hand and is handed on to copies holds of every block that
    is passed. -/
theorem All.walk {c : Cursor} (h : c.All P) (hcopy : ∀ b number, P b → P (b.copy number)) (limit n : Nat) :
    ∀ b ∈ (walk limit n c).1, P b := by
  induction n generalizing c with
  | zero => exact nofun
  | succ n ih =>
    unfold Cursor.walk
    split
    case h_1 => exact nofun
    case h_2 b rest hrest =>
      refine List.forall_mem_cons.2 ⟨?_, ih (h.pass hcopy limit hrest)⟩
      exact h.1 b (hrest ▸ List.mem_cons_self)

end Cursor

/-- The ending of a chain that has come to a place where no step is left to it. -/
def Cursor.ending (c : Cursor) : ChainEnd :=
  if c.rest.isEmpty then .completed else .runaway

namespace Chain

/-- The blocks that the chain dispatches. -/
def script (limit : Nat) (c : Chain) : List Block :=
  ((Cursor.start c).walk limit limit).1

/-- How the chain ends: as runaway if a further block is due once it has dispatched as many as the
    limit allows. -/
def ending (limit : Nat) (c : Chain) : ChainEnd :=
  ((Cursor.start c).walk limit limit).2.ending

/-- A chain is a runaway exactly if blocks are left at the step limit. -/
theorem ending_eq_runaway_iff (limit : Nat) (c : Chain) :
    c.ending limit = .runaway ↔ ((Cursor.start c).walk limit limit).2.rest ≠ [] := by
  simp [ending, Cursor.ending]

/-- A chain is completed exactly if no block is left at the step limit. -/
theorem ending_eq_completed_iff (limit : Nat) (c : Chain) :
    c.ending limit = .completed ↔ ((Cursor.start c).walk limit limit).2.rest = [] := by
  simp [ending, Cursor.ending]

/-- No chain dispatches more blocks than the step limit. -/
theorem length_script_le (limit : Nat) (c : Chain) : (c.script limit).length ≤ limit :=
  Cursor.length_walk_le limit limit (Cursor.start c)

/-- What holds of the blocks of a chain and is handed on to copies holds of all that is dispatched. -/
theorem forall_script {P : Block → Prop} (hcopy : ∀ b number, P b → P (b.copy number)) {c : Chain}
    (hc : ∀ b ∈ c.toList, P b) (limit : Nat) : ∀ b ∈ c.script limit, P b :=
  Cursor.All.walk ⟨hc, nofun⟩ hcopy limit limit

end Chain

/-- What a chain does that counts for its course. -/
inductive Act (β : Type) where
  | dispatch (b : β)
  | finish (how : ChainEnd)

/-- The block that is dispatched, if one is. -/
def Act.block? {β : Type} : Act β → Option β
  | dispatch b => some b
  | finish _ => none

/-- The same course with something else told of the blocks. -/
def Act.map {β γ : Type} (f : β → γ) : Act β → Act γ
  | dispatch b => dispatch (f b)
  | finish how => finish how

/-- All that the chain at this place has still to do. -/
def Cursor.plan (limit : Nat) (c : Cursor) : List (Act Block) :=
  let (blocks, last) := c.walk limit (limit - c.steps)
  blocks.map .dispatch ++ [.finish last.ending]

namespace Cursor

/-- Where no block is left, the plan is to finish. -/
theorem plan_of_finished {limit : Nat} {c : Cursor} (hturn : c.advance limit = .finished) :
    c.plan limit = [.finish .completed] := by
  unfold advance at hturn
  split at hturn
  case h_1 hrest =>
    unfold plan
    cases limit - c.steps <;> simp [walk, hrest, ending]
  case h_2 => split at hturn <;> cases hturn

/-- Where blocks are left at the step limit, the plan is to give up. -/
theorem plan_of_runaway {limit : Nat} {c : Cursor} (hturn : c.advance limit = .runaway) :
    c.plan limit = [.finish .runaway] := by
  unfold advance at hturn
  split at hturn
  case h_1 => cases hturn
  case h_2 b rest hrest =>
    split at hturn
    case isTrue hlimit => simp [plan, walk, hrest, ending, Nat.sub_eq_zero_of_le hlimit]
    case isFalse => cases hturn

/-- Where a block is due, the plan is to dispatch it and to go on behind it. -/
theorem plan_of_due {limit : Nat} {c behind : Cursor} {b : Block}
    (hturn : c.advance limit = .due b behind) :
    c.plan limit = .dispatch b :: (c.pass limit b behind.rest).plan limit := by
  obtain ⟨rest, hrest, hlimit, rfl⟩ := advance_eq_due_iff.1 hturn
  have hleft : limit - c.steps = limit - (c.steps + 1) + 1 := by omega
  simp only [plan, leave, steps_pass, hleft, walk, hrest, List.map_cons, List.cons_append]

/-- The plan at the start of a chain is its script and then its ending. -/
theorem plan_start (limit : Nat) (c : Chain) :
    (start c).plan limit = (c.script limit).map .dispatch ++ [.finish (c.ending limit)] := rfl

/-- The blocks that are planned to be dispatched are those of the script. -/
theorem dispatch_mem_plan_start {limit : Nat} {c : Chain} {b : Block} :
    .dispatch b ∈ (start c).plan limit ↔ b ∈ c.script limit := by
  simp [plan_start]

end Cursor

end SpriteStage
