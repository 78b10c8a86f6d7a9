import SpriteStage.Engine.Effect
import SpriteStage.Proofs.Program.Faultless

namespace SpriteStage

/-- The count of a repeat, if it has one, is a number of at least one. -/
def Block.CountsUp (b : Block) : Prop :=
  ∀ value, b.field? "TIMES" = some value →
    Number.isNaN value.number = false ∧ Number.less value.number 1 = false

/-- A repeat without faults counts up to one at least. -/
theorem Block.Filled.countsUp {b : Block} (h : b.Filled) (hrepeat : b.is .repeatAbove = true) :
    b.CountsUp := by
  obtain ⟨kind, hkind, hfills⟩ := h
  rw [is_iff_kind?, hkind, Option.some.injEq] at hrepeat
  subst hrepeat
  have hcount : FieldSpec.atLeast "TIMES" 10 1 ∈ BlockKind.repeatAbove.valueFields :=
    List.mem_singleton.2 rfl
  intro value hvalue
  obtain ⟨hnumber, hmin, _⟩ := (hfills _ hcount).number rfl value hvalue
  exact ⟨hnumber, hmin 1 rfl⟩

/-- The blocks of a clean program are filled, and none of its chains starts with a repeat. -/
theorem Program.filled_of_isClean {program : Program} (hclean : program.isClean = true) {c : Chain}
    (hc : c ∈ program) : (∀ b ∈ c.toList, b.Filled) ∧ c.head.is .repeatAbove = false := by
  have hchain : c.toList ∈ program.chains := List.mem_flatMap.2 ⟨c, hc, List.mem_cons_self⟩
  obtain ⟨hfilled, _, hhead⟩ := Lint.fine_true_iff.1 (fine_of_isClean hclean _ hchain)
  exact ⟨hfilled, hhead c.head rfl⟩

/-- What the chains of clean programs have in common. -/
structure Chain.Clean (c : Chain) : Prop where
  head : c.head.is .repeatAbove = false
  countsUp : ∀ b ∈ c.tail, b.is .repeatAbove = true → b.CountsUp

/-- What the linter finds clean is clean: it finds nothing only where no chain starts with a repeat
    and every repeat counts up. -/
theorem Program.clean_of_isClean {program : Program} (hclean : program.isClean = true) {c : Chain}
    (hc : c ∈ program) : c.Clean := by
  obtain ⟨hfilled, hhead⟩ := filled_of_isClean hclean hc
  exact ⟨hhead, fun b hb => (hfilled b (List.mem_cons_of_mem _ hb)).countsUp⟩

end SpriteStage
