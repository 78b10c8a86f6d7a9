import SpriteStage.Proofs.Cursor.Walk
import SpriteStage.Proofs.Program.Unrolling

namespace SpriteStage.Cursor

/-- The place behind `last`, the last block that is no repeat, with some copies of it to come before
    the rest of the chain. A repeat is dispatched last only while a copy is to come. -/
structure Reads (c : Cursor) (last : Block) (copies : Nat) (rest : List Block) : Prop where
  rest : ∃ pending, c.rest = pending ++ rest ∧ pending.length = copies ∧
    ∀ b ∈ pending, b.content = last.content
  previous : copies = 0 → ∃ b, c.previous = some b ∧ b.content = last.content
  not_repeat : last.is .repeatAbove = false

namespace Reads

variable {c : Cursor} {last b : Block} {rest : List Block}

/-- What is left of a walk is what is still to be read, once no copies are due any more. -/
theorem rest_eq (h : c.Reads last 0 rest) : c.rest = rest := by
  obtain ⟨pending, hrest, hnone, _⟩ := h.rest
  rw [hrest, List.length_eq_zero_iff.1 hnone, List.nil_append]

/-- The next copy is dispatched and is then the block that a repeat would copy. -/
theorem pass_copy (limit : Nat) {k : Nat} (h : c.Reads last (k + 1) rest) :
    ∃ copy behind, c.rest = copy :: behind ∧ copy.content = last.content ∧
      (c.pass limit copy behind).Reads last k rest := by
  obtain ⟨pending, hrest, hlength, hcontent⟩ := h.rest
  cases pending with
  | nil => cases hlength
  | cons copy pending =>
    have hcopy := hcontent copy List.mem_cons_self
    have hnot : ¬ copy.is .repeatAbove = true := by
      rw [Block.is_congr hcopy, h.not_repeat]
      nofun
    refine ⟨copy, pending ++ rest, hrest, hcopy, ?_⟩
    rw [pass, if_neg hnot]
    refine ⟨⟨pending, rfl, Nat.succ.inj hlength, ?_⟩, fun _ => ⟨copy, rfl, hcopy⟩, h.not_repeat⟩
    intro other hother
    exact hcontent other (List.mem_cons_of_mem _ hother)

/-- Behind a block that is no repeat, that block is the one to be copied. -/
theorem pass_block (limit : Nat) (c : Cursor) (hblock : b.is .repeatAbove = false) :
    (c.pass limit b rest).Reads b 0 rest := by
  have hnot : ¬ b.is .repeatAbove = true := by simp [hblock]
  rw [pass, if_neg hnot]
  exact ⟨⟨[], rfl, rfl, nofun⟩, fun _ => ⟨b, rfl, rfl⟩, hblock⟩

/-- A repeat copies the block dispatched before it, which is a copy of the last block that is no
    repeat if it is not that block itself. -/
theorem pass_repeat {limit : Nat} (h : c.Reads last 0 (b :: rest)) (hrepeat : b.is .repeatAbove = true)
    (hcopies : 0 < copies b.repeatTimes limit) :
    (c.pass limit b rest).Reads last (copies b.repeatTimes limit) rest := by
  obtain ⟨template, hprevious, htemplate⟩ := h.previous rfl
  rw [pass, if_pos hrepeat, hprevious, splice_some]
  refine ⟨⟨_, rfl, ?_, ?_⟩, fun hnone => absurd hnone (by omega), h.not_repeat⟩
  · rw [List.length_map, List.length_range]
  · intro copy hcopy
    obtain ⟨i, _, rfl⟩ := List.mem_map.1 hcopy
    exact htemplate

end Reads

/-- From a place in a clean chain the walk reads off the copies still to come and then the unrolling
    of the rest, and a block is left over exactly if there is more to read. The limit that counts are
    cut down to is above the number of blocks that are still read. -/
theorem walk_of_reads {limit n : Nat} (hn : n < limit) {c : Cursor} {last : Block} {k : Nat}
    {rest : List Block} (h : c.Reads last k rest)
    (hclean : ∀ b ∈ rest, b.is .repeatAbove = true → b.CountsUp) :
    let runs := (last, (k : ℕ∞)) :: Block.unroll (some last) rest
    (c.walk limit n).1.map Block.content = (Runs.take n runs).map Block.content ∧
      ((c.walk limit n).2.rest ≠ [] ↔ (n : ℕ∞) < Runs.length runs) := by
  induction n generalizing c last k rest with
  | zero =>
    dsimp only
    rw [walk, Runs.take_zero, Nat.cast_zero]
    refine ⟨rfl, ?_⟩
    cases k with
    | succ k =>
      obtain ⟨copy, behind, hrest, _⟩ := h.pass_copy limit
      simp [hrest, Runs.length]
    | zero =>
      rw [h.rest_eq, Nat.cast_zero, Runs.length_cons_zero]
      cases rest with
      | nil => simp [Block.unroll, Runs.length]
      | cons b rest => simp [Block.length_unroll_pos]
  | succ n ih =>
    cases k with
    | succ k =>
      obtain ⟨copy, behind, hrest, hcopy, hreads⟩ := h.pass_copy limit
      obtain ⟨hread, hleft⟩ := ih (by omega) hreads hclean
      simp only [walk, hrest]
      rw [Runs.take_cons_succ, Runs.succ_lt_length_cons_succ, List.map_cons, List.map_cons, hread, hcopy]
      exact ⟨rfl, hleft⟩
    | zero =>
      have hrest := h.rest_eq
      cases rest with
      | nil => simp [walk, hrest, Block.unroll, Runs.take, Runs.length]
      | cons b rest =>
        have htail : ∀ other ∈ rest, other.is .repeatAbove = true → other.CountsUp :=
          fun other hother => hclean other (List.mem_cons_of_mem _ hother)
        simp only [walk, hrest]
        cases hrepeat : b.is .repeatAbove with
        | false =>
          obtain ⟨hread, hleft⟩ := ih (by omega) (Reads.pass_block limit c hrepeat) htail
          rw [Nat.cast_zero, Runs.take_cons_zero] at hread
          rw [Nat.cast_zero, Runs.length_cons_zero] at hleft
          rw [Block.unroll_cons_block hrepeat, Nat.cast_zero, Runs.take_cons_zero,
            Runs.length_cons_zero, Runs.take_cons_one, Runs.succ_lt_length_cons_one, List.map_cons,
            List.map_cons, hread]
          exact ⟨rfl, hleft⟩
        | true =>
          have hcount := hclean b List.mem_cons_self hrepeat
          have hcopies := Block.min_copies_repeatTimes hcount limit
          have hpos : 0 < copies b.repeatTimes limit := by
            have hle : 1 ≤ min ((copies b.repeatTimes limit : Nat) : ℕ∞) limit := by
              rw [hcopies]
              exact le_min (Block.one_le_extraCopies hcount) (by exact_mod_cast Nat.one_le_of_lt hn)
            exact_mod_cast hle.trans (min_le_left _ _)
          have hbelow : n < limit := by omega
          obtain ⟨hread, hleft⟩ := ih hbelow (h.pass_repeat hrepeat hpos) htail
          rw [← Runs.take_cons_min hbelow.le, hcopies, Runs.take_cons_min hbelow.le] at hread
          rw [← Runs.lt_length_cons_min hbelow, hcopies, Runs.lt_length_cons_min hbelow] at hleft
          rw [Block.unroll_cons_repeat hrepeat, Nat.cast_zero, Runs.take_cons_zero,
            Runs.length_cons_zero, Runs.take_cons_one, Runs.succ_lt_length_cons_one, List.map_cons,
            List.map_cons, hread]
          exact ⟨rfl, hleft⟩

end SpriteStage.Cursor

namespace SpriteStage.Chain.Clean

/-- What a clean chain dispatches is its unrolling up to the step limit. -/
theorem map_content_script {c : Chain} (h : c.Clean) {limit : Nat} (hlimit : 0 < limit) :
    (c.script limit).map Block.content = (Runs.take limit c.unrolling).map Block.content ∧
      (c.ending limit = .runaway ↔ (limit : ℕ∞) < Runs.length c.unrolling) := by
  obtain ⟨n, rfl⟩ := Nat.exists_eq_succ_of_ne_zero hlimit.ne'
  have hreads : ((Cursor.start c).pass (n + 1) c.head c.tail).Reads c.head 0 c.tail :=
    Cursor.Reads.pass_block _ _ h.head
  obtain ⟨hread, hleft⟩ := Cursor.walk_of_reads n.lt_succ_self hreads h.countsUp
  rw [Nat.cast_zero, Runs.take_cons_zero] at hread
  rw [Nat.cast_zero, Runs.length_cons_zero] at hleft
  have hunrolling : c.unrolling = (c.head, 1) :: Block.unroll (some c.head) c.tail :=
    Block.unroll_cons_block h.head none c.tail
  rw [ending_eq_runaway_iff, hunrolling, Runs.take_cons_one, Runs.succ_lt_length_cons_one]
  refine ⟨?_, hleft⟩
  rw [List.map_cons, ← hread]
  rfl

/-- The plan of a clean chain is its unrolling up to the limit, and it is a runaway exactly if the
    unrolling is longer than that. -/
theorem map_plan_start {c : Chain} (h : c.Clean) {limit : Nat} (hlimit : 0 < limit) :
    ((Cursor.start c).plan limit).map (Act.map Block.content) =
      (Runs.take limit c.unrolling).map (fun b => .dispatch b.content) ++
        [.finish (if (limit : ℕ∞) < Runs.length c.unrolling then .runaway else .completed)] := by
  obtain ⟨hscript, hrunaway⟩ := h.map_content_script hlimit
  have hending : c.ending limit =
      if (limit : ℕ∞) < Runs.length c.unrolling then .runaway else .completed := by
    split
    case isTrue hlong => exact hrunaway.2 hlong
    case isFalse hshort =>
      rw [c.ending_eq_completed_iff]
      by_contra hrest
      exact hshort (hrunaway.1 ((c.ending_eq_runaway_iff limit).2 hrest))
  have hdispatch : ((c.script limit).map Act.dispatch).map (Act.map Block.content) =
      ((c.script limit).map Block.content).map Act.dispatch := by
    rw [List.map_map, List.map_map]
    rfl
  rw [Cursor.plan_start, List.map_append, hdispatch, hscript, hending, List.map_map]
  rfl

end SpriteStage.Chain.Clean
