import SpriteStage.Proofs.Stage.Runs

namespace SpriteStage

/-- The part of a sprite that a block is about. -/
inductive Subject where
  | bubble
  | size
  | rotation
  /-- The rotation of a sprite that turns to a point, with the glide that it shows. -/
  | direction
  | position
  | x
  | y
deriving DecidableEq, Repr

/-- The part that a kind of block is about. The others write no sprite back: they start a run, make the chain
    wait or glide, or repeat a block. -/
def BlockKind.subject? : BlockKind → Option Subject
  | say | think | sayForSeconds | thinkForSeconds => some .bubble
  | changeSize => some .size
  | clockwise | anticlockwise => some .rotation
  | pointTowards => some .direction
  | goTo | goToRandom => some .position
  | move | changeXBy | setX => some .x
  | changeYBy | setY => some .y
  | whenFlagClicked | glide | wait | repeatAbove => none

/-- A block of no known kind is about nothing. -/
def Block.subject? (b : Block) : Option Subject :=
  b.kind?.bind BlockKind.subject?

variable {α : Type}

/-- One sprite is the other, this part apart. -/
def Subject.Confines (sprite next : Sprite α) : Subject → Prop
  | bubble => ∃ speech, next = { sprite with speech := speech }
  | size => ∃ size, next = { sprite with size := size }
  | rotation => ∃ rotation, next = { sprite with rotation := rotation }
  | direction => ∃ rotation, next = { sprite with rotation := rotation, animation := none }
  | position => ∃ position, next = { sprite with position := position }
  | x => ∃ x, next = { sprite with position := ⟨x, sprite.position.y⟩ }
  | y => ∃ y, next = { sprite with position := ⟨sprite.position.x, y⟩ }

/-- No block is about who a sprite is, whether it runs or which program it has. -/
theorem Subject.Confines.kept {sprite next : Sprite α} {subject : Subject}
    (h : subject.Confines sprite next) : next.id = sprite.id ∧ next.kind = sprite.kind ∧
      next.isRunning = sprite.isRunning ∧ next.program = sprite.program := by
  cases subject
  all_goals
    obtain ⟨_, rfl⟩ := h
    exact ⟨rfl, rfl, rfl, rfl⟩

namespace Block

variable [Scalar α]

/-- A block about nothing writes no sprite back. -/
theorem sprite?_of_subject?_eq_none {b : Block} (hsubject : b.subject? = none) (sprite : Sprite α)
    (context : Context α) : (b.dispatch sprite context).sprite? = none := by
  unfold dispatch
  unfold subject? at hsubject
  cases hkind : b.kind? with
  | none => rfl
  | some kind =>
    rw [hkind] at hsubject
    cases kind <;> first | rfl | cases hsubject

/-- A block that points to something other than the pointer writes no sprite back. -/
theorem sprite?_of_other_target {b : Block} (hkind : b.kind? = some .pointTowards)
    (htarget : b.text "target" ≠ mousePointer) (sprite : Sprite α) (context : Context α) :
    (b.dispatch sprite context).sprite? = none := by
  simp only [dispatch, hkind, if_neg htarget]
  rfl

/-- A block that is about a part of its sprite writes the sprite back with this part changed. -/
theorem exists_confined {b : Block} {subject : Subject} (hsubject : b.subject? = some subject)
    (htarget : b.kind? = some .pointTowards → b.text "target" = mousePointer) (sprite : Sprite α)
    (context : Context α) :
    ∃ next, (b.dispatch sprite context).sprite? = some next ∧ subject.Confines sprite next := by
  unfold dispatch
  unfold subject? at hsubject
  cases hkind : b.kind? with
  | none =>
    rw [hkind] at hsubject
    cases hsubject
  | some kind =>
    rw [hkind] at hsubject htarget
    -- Kinds that are about nothing drop out here.
    cases kind <;> simp only [Option.bind_some, BlockKind.subject?, Option.some.injEq, reduceCtorEq]
      at hsubject
    all_goals subst hsubject
    case pointTowards =>
      simp only [if_pos (htarget rfl)]
      exact ⟨_, rfl, _, rfl⟩
    all_goals exact ⟨_, rfl, _, rfl⟩

/-- The sprite that a block writes back differs from the one that it was given in the part alone that the
    block is about, so who it is, whether it runs and which program it has are as they were. A block
    about no part writes no sprite back, nor does one that is to turn its sprite to anything but the
    pointer, and every other block does. -/
theorem dispatch_keeps_to_its_subject (b : Block) (sprite : Sprite α) (context : Context α) :
    let given := (b.dispatch sprite context).sprite?
    (∀ next, given = some next →
      (next.id = sprite.id ∧ next.kind = sprite.kind ∧ next.isRunning = sprite.isRunning ∧
        next.program = sprite.program) ∧
      ∃ subject, b.subject? = some subject ∧ subject.Confines sprite next) ∧
    (given = none ↔
      b.subject? = none ∨ b.kind? = some .pointTowards ∧ b.text "target" ≠ mousePointer) := by
  intro given
  have hnone (hwritesNone : b.subject? = none ∨
      b.kind? = some .pointTowards ∧ b.text "target" ≠ mousePointer) : given = none := by
    rcases hwritesNone with hsubject | ⟨hkind, htarget⟩
    · exact sprite?_of_subject?_eq_none hsubject sprite context
    · exact sprite?_of_other_target hkind htarget sprite context
  by_cases hwritesNone : b.subject? = none ∨
      b.kind? = some .pointTowards ∧ b.text "target" ≠ mousePointer
  · rw [hnone hwritesNone]
    exact ⟨nofun, iff_of_true rfl hwritesNone⟩
  · obtain ⟨hsome, htarget⟩ := not_or.1 hwritesNone
    obtain ⟨subject, hsubject⟩ := Option.ne_none_iff_exists'.1 hsome
    obtain ⟨next, hnext, hconfines⟩ := exists_confined hsubject
      (fun hkind => not_not.1 fun hother => htarget ⟨hkind, hother⟩) sprite context
    have hgiven : given = some next := hnext
    rw [hgiven]
    refine ⟨?_, iff_of_false nofun hwritesNone⟩
    rintro _ ⟨⟩
    exact ⟨hconfines.kept, subject, hsubject, hconfines⟩

end Block

end SpriteStage
