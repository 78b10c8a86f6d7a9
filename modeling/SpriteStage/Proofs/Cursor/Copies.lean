import Mathlib.Data.List.Nodup
import Mathlib.Data.List.Perm.Basic
import SpriteStage.Proofs.Cursor.Walk
import SpriteStage.Proofs.Program.CopyId

namespace SpriteStage.Cursor

/-- The copies that passing a block puts in front of what follows it. -/
def copiesAt (limit : Nat) (b : Block) (c : Cursor) : List Block :=
  if b.is .repeatAbove then (Block.expandRepeat c.previous b.repeatTimes [] limit c.serial).1 else []

/-- The copies that are made while the next `n` blocks are passed. -/
def made (limit : Nat) : Nat → Cursor → List Block
  | 0, _ => []
  | n + 1, c =>
    match c.rest with
    | [] => []
    | b :: rest => c.copiesAt limit b ++ made limit n (c.pass limit b rest)

/-- Passing a block puts its copies in front and counts them. -/
theorem pass_eq (limit : Nat) (b : Block) (rest : List Block) (c : Cursor) : c.pass limit b rest =
    ⟨c.copiesAt limit b ++ rest, some b, c.steps + 1, c.serial + (c.copiesAt limit b).length⟩ := by
  unfold pass copiesAt
  split
  case isTrue => cases c.previous <;> simp [leave]
  case isFalse => simp [leave]

/-- The copies made at one block are numbered on from the serial of the walk. -/
theorem numbers_copiesAt (limit : Nat) (b : Block) (c : Cursor) :
    (c.copiesAt limit b).map (fun b => copyNumber? b.id) =
      (List.range' (c.serial + 1) (c.copiesAt limit b).length).map some := by
  unfold copiesAt
  split
  case isTrue =>
    cases c.previous with
    | none => simp
    | some last =>
      simp only [Block.expandRepeat_some, List.append_nil, List.map_map, List.length_map, List.length_range,
        List.range'_eq_map_range]
      apply List.map_congr_left
      intro i _
      simp only [Function.comp_apply, copyNumber?_id_copy]
      congr 1
      omega
  case isFalse => simp

/-- The numbers of the copies go on from the serial, one by one. -/
theorem numbers_made (limit n : Nat) (c : Cursor) :
    (made limit n c).map (fun b => copyNumber? b.id) =
      (List.range' (c.serial + 1) (made limit n c).length).map some := by
  induction n generalizing c with
  | zero => simp [made]
  | succ n ih =>
    unfold made
    split
    case h_1 => simp
    case h_2 b rest _ =>
      have hnext : (c.pass limit b rest).serial + 1 = c.serial + 1 + (c.copiesAt limit b).length := by
        simp only [pass_eq]
        omega
      rw [List.map_append, numbers_copiesAt, ih, hnext, ← List.map_append, List.range'_append_1,
        List.length_append]

/-- No two copies of one walk have the same id. -/
theorem nodup_made (limit n : Nat) (c : Cursor) : ((made limit n c).map (·.id)).Nodup := by
  apply List.Nodup.of_map copyNumber?
  rw [List.map_map]
  have hnumbers := numbers_made limit n c
  rw [Function.comp_def, hnumbers]
  exact List.Nodup.map (fun _ _ => Option.some.inj) List.nodup_range'

/-- The blocks that were passed and those that are due are the blocks that were due at first and the
    copies made on the way, each as often as it is there. -/
theorem perm_walk (limit n : Nat) (c : Cursor) :
    ((walk limit n c).1 ++ (walk limit n c).2.rest).Perm (c.rest ++ made limit n c) := by
  induction n generalizing c with
  | zero => simp [walk, made]
  | succ n ih =>
    cases hrest : c.rest with
    | nil => simp [walk, made, hrest]
    | cons b rest =>
      have hnext := ih (c.pass limit b rest)
      have hpass : (c.pass limit b rest).rest = c.copiesAt limit b ++ rest := by rw [pass_eq]
      rw [hpass] at hnext
      simp only [walk, made, hrest, List.cons_append]
      refine (hnext.trans ?_).cons b
      rw [← List.append_assoc]
      exact List.perm_append_comm.append_right _

/-- If the blocks that are due have different ids that are not numbered, no id is passed twice. -/
theorem nodup_walk {c : Cursor} (hnodup : (c.rest.map (·.id)).Nodup)
    (hplain : ∀ b ∈ c.rest, ¬ Numbered b.id) (limit n : Nat) :
    ((walk limit n c).1.map (·.id)).Nodup := by
  have hall : ((c.rest ++ made limit n c).map (·.id)).Nodup := by
    rw [List.map_append, List.nodup_append]
    refine ⟨hnodup, nodup_made limit n c, ?_⟩
    -- A copy and a block of the chain differ, since the id of the copy is numbered.
    intro id hold other hnew hsame
    subst hsame
    obtain ⟨b, hb, rfl⟩ := List.mem_map.1 hold
    obtain ⟨copy, hcopy, hid⟩ := List.mem_map.1 hnew
    have hnumber : copyNumber? copy.id ∈ (made limit n c).map fun b => copyNumber? b.id :=
      List.mem_map_of_mem hcopy
    rw [numbers_made] at hnumber
    obtain ⟨number, _, hsome⟩ := List.mem_map.1 hnumber
    apply hplain b hb
    rw [numbered_iff, ← hid, ← hsome]
    rfl
  have hperm := (perm_walk limit n c).map (·.id)
  rw [List.map_append] at hperm
  exact (List.nodup_append.1 (hperm.nodup_iff.2 hall)).1

/-- A walk of one block after the other. -/
theorem walk_one {limit : Nat} {c behind : Cursor} {b : Block}
    (hturn : c.advance limit = .due b behind) :
    walk limit 1 c = ([b], c.pass limit b behind.rest) ∧ made limit 1 c = c.copiesAt limit b := by
  obtain ⟨rest, hrest, -, rfl⟩ := advance_eq_due_iff.1 hturn
  simp [walk, made, hrest, leave]

/-- A walk of some steps and then some more is the walk of all the steps, in its blocks, in its
    copies and in where it ends. -/
theorem walk_add (limit m n : Nat) (c : Cursor) :
    (walk limit (m + n) c).1 = (walk limit m c).1 ++ (walk limit n (walk limit m c).2).1 ∧
      (walk limit (m + n) c).2 = (walk limit n (walk limit m c).2).2 ∧
      made limit (m + n) c = made limit m c ++ made limit n (walk limit m c).2 := by
  induction m generalizing c with
  | zero => simp [walk, made]
  | succ m ih =>
    rw [Nat.add_right_comm]
    cases hrest : c.rest with
    | nil => cases n <;> simp [walk, made, hrest]
    | cons b rest => simp [walk, made, hrest, ih]

end SpriteStage.Cursor
