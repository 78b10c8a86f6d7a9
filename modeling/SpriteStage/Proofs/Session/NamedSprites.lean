import SpriteStage.Proofs.Session.Trading
import SpriteStage.Proofs.Stage.Evaluation
import SpriteStage.Proofs.Store.Versions

namespace SpriteStage

variable {α : Type}

/-- The sprite that a control operation names, if it names one. -/
def Control.named? : Control α → Option Nat
  | .select id | .delete id | .setPosition id _ _ | .moveTo id _ | .setRotation id _
  | .changeSize id _ | .setProgram id _ | .run id => some id
  | _ => none

/-- The operation found no sprite, or nothing to start. -/
def Reply.IsFailure (reply : Reply) : Prop :=
  reply = .found false ∨ reply = .started 0

/-- Selecting a sprite that is not there does nothing. -/
theorem Store.select_of_unknown {store : Store α} {id : Nat} (hunknown : ¬ store.contains id = true) :
    store.select id = store :=
  if_neg hunknown

theorem Store.slot?_select (store : Store α) (id other : Nat) :
    (store.select id).slot? other = store.slot? other := by
  unfold select
  split <;> rfl

namespace Stage

/-- Deleting a sprite that is not there does nothing. -/
theorem delete_of_unknown {stage : Stage α} {id : Nat}
    (hunknown : ¬ stage.store.contains id = true) : stage.delete id = stage :=
  if_neg hunknown

/-- Deleting a sprite leaves the slots of all others alone. -/
theorem slot?_delete_of_ne {id other : Nat} (hne : other ≠ id) (stage : Stage α) :
    (stage.delete id).store.slot? other = stage.store.slot? other := by
  unfold delete
  split
  · exact (stage.store.slot?_remove id other).trans (if_neg hne)
  · rfl

/-- A sprite that is not there has no program to run. -/
theorem programOf_of_unknown {stage : Stage α} {id : Nat}
    (hunknown : ¬ stage.store.contains id = true) : stage.programOf id = [] := by
  rw [programOf, Store.get?_of_unknown hunknown, Option.elim_none]

/-- Committing a change of a sprite that is not there does nothing. -/
theorem commit_of_unknown [Scalar α] {stage : Stage α} {id : Nat}
    (hunknown : ¬ stage.store.contains id = true) (change : Sprite α → Sprite α) :
    stage.commit id change = stage :=
  if_neg hunknown

/-- Apart from Hero Mode, a change of one sprite leaves the slots of all others alone. -/
theorem slot?_commit_of_ne [Scalar α] {id other : Nat} (hne : other ≠ id)
    (change : Sprite α → Sprite α) (stage : Stage α) :
    ((stage.withHero .off).commit id change).store.slot? other = stage.store.slot? other := by
  rw [commit_eq_update]
  exact (stage.store.slot?_update id other change).trans (if_neg hne)

end Stage

namespace Session

variable [Scalar α] {s : Session α} {control : Control α} {id : Nat}

section Named

variable (hnamed : control.named? = some id)

include hnamed

/-- A control operation on a sprite that is not there does nothing. -/
theorem perform_of_unknown (hunknown : ¬ s.stage.store.contains id = true) :
    s.perform control = s := by
  have hstage {change : Stage α → Stage α} (hsame : change s.stage = s.stage) :
      s.onStage change = s :=
    congrArg (fun stage => { s with stage := stage }) hsame
  cases control <;> cases hnamed
  case select =>
    exact hstage (congrArg (fun store => { s.stage with store := store })
      (Store.select_of_unknown hunknown))
  case delete => exact hstage (Stage.delete_of_unknown hunknown)
  case run =>
    have hnone : Program.flagged (s.stage.programOf id) = [] := by
      rw [Stage.programOf_of_unknown hunknown]
      rfl
    simp only [perform, run, startChosen, hnone]
  all_goals exact hstage (Stage.commit_of_unknown hunknown _)

/-- A control operation on a sprite that is not there answers that it failed. -/
theorem isFailure_reply_of_unknown (hunknown : ¬ s.stage.store.contains id = true) :
    (s.reply control).IsFailure := by
  have hnotFound : Reply.found (s.stage.store.contains id) = .found false :=
    congrArg Reply.found (Bool.eq_false_iff.2 hunknown)
  cases control <;> cases hnamed
  case run =>
    refine Or.inr ?_
    rw [reply, Stage.programOf_of_unknown hunknown]
    rfl
  all_goals exact Or.inl hnotFound

omit [Scalar α] in
/-- None of these operations switches Hero Mode. -/
theorem heroAt_of_named : s.heroAt (.control control) = s.stage.hero := by
  cases control <;> cases hnamed <;> rfl

/-- Apart from Hero Mode, the operations leave every sprite alone that they do not name. -/
theorem slot?_handlePlain_of_named (h : s.stage.Tracked) {other : Nat} (hne : other ≠ id) :
    (s.handlePlain (.control control)).stage.store.slot? other = s.stage.store.slot? other := by
  cases control <;> cases hnamed
  case select => exact s.stage.store.slot?_select id other
  case delete => exact Stage.slot?_delete_of_ne hne (s.stage.withHero .off)
  case run => exact slot?_startChosen_of_ne (tracked_plain h) Program.flagged hne
  all_goals exact Stage.slot?_commit_of_ne hne _ s.stage

/-- The pairs that trade at an operation on a sprite are those that the operation made overlap, with
    Hero Mode on. -/
theorem mem_contacts_of_named (h : s.stage.Tracked) {pair : Pair}
    (hpair : pair ∈ s.contacts (.control control)) : s.stage.hero.enabled = true ∧
      pair ∈ (s.perform control).stage.store.overlappingPairs ∧
        pair ∉ s.stage.store.overlappingPairs := by
  rw [contacts, heroAt_of_named hnamed, h.knows.newContacts_eq] at hpair
  split at hpair
  case isTrue henabled =>
    obtain ⟨hafter, hbefore⟩ := List.mem_filter.1 hpair
    rw [← overlappingPairs_handle h] at hafter
    exact ⟨henabled, hafter, by simpa using hbefore⟩
  case isFalse => cases hpair

end Named

/-- A control operation that names a sprite which is not there fails and leaves everything as it was.
    If the sprite is there, every other one keeps all but its bubble and its program, and no sprite
    comes up. The bubble, the program or the version of another sprite changes only while Hero Mode is
    on, and only if the sprite is in a pair that overlaps now and did not before. -/
theorem controls_keep_to_their_sprite (hs : s.Reachable) (hnamed : control.named? = some id) :
    let before := s.stage.store
    let after := (s.perform control).stage.store
    (before.contains id = false → (s.reply control).IsFailure ∧ s.perform control = s) ∧
    (before.contains id = true → ∀ other, other ≠ id →
      (before.get? other = none → after.get? other = none) ∧
      (∀ sprite, before.get? other = some sprite → ∃ speech program,
        after.get? other = some { sprite with speech := speech, program := program }) ∧
      (after.slot? other ≠ before.slot? other → s.stage.hero.enabled = true ∧
        ∃ pair : Pair, pair.involves other = true ∧ pair ∈ after.overlappingPairs ∧
          pair ∉ before.overlappingPairs)) := by
  intro before after
  have h := hs.tracked
  have hwellFormed := wellFormed_handlePlain h.wellFormed (.control control)
  have hafter : after = (s.handlePlain (.control control)).stage.store.trade
      (s.contacts (.control control)) := store_handle h (.control control)
  refine ⟨?_, ?_⟩
  · intro hunknown
    have hnot : ¬ s.stage.store.contains id = true := Bool.eq_false_iff.1 hunknown
    exact ⟨isFailure_reply_of_unknown hnamed hnot, perform_of_unknown hnamed hnot⟩
  · intro _ other hne
    have hplain := slot?_handlePlain_of_named hnamed h hne
    have hget : (s.handlePlain (.control control)).stage.store.get? other = before.get? other :=
      congrArg (Option.map Slot.sprite) hplain
    refine ⟨?_, ?_, ?_⟩
    · intro hnone
      have hpresent : (after.get? other).map (fun _ => ()) = (before.get? other).map fun _ => () := by
        rw [← hget, hafter]
        exact Store.map_get?_trade (fun _ _ _ _ => rfl) _ _ other
      rwa [hnone, Option.map_none, Option.map_eq_none_iff] at hpresent
    · intro sprite hsprite
      rw [hafter]
      exact Store.get?_trade_of_get? hwellFormed _ (hget.trans hsprite)
    · intro hchanged
      by_contra hnone
      apply hchanged
      rw [hafter, Store.slot?_trade, hplain]
      intro pair hpair
      obtain ⟨henabled, hnow, hbefore⟩ := mem_contacts_of_named hnamed h hpair
      by_contra hinvolved
      exact hnone ⟨henabled, pair, by simpa using hinvolved, hnow, hbefore⟩

/-- Three balls apart from each other, the first of them with a program, and Hero Mode on. -/
def visiting : Session Float :=
  let program : Program := [⟨⟨"f", "when_flag_clicked", [], [], []⟩, []⟩]
  (new Config.default 0).play
    [.control (.add .ball), .control (.add .ball), .control (.add .ball),
      .control (.moveTo 2 (.ofFloats 200 200)), .control (.moveTo 3 (.ofFloats 500 500)),
      .control (.setProgram 1 program), .control .toggleHero]

/-- Deleting a fourth ball fails. Moving the first ball to the second one changes the second, which gets
    the program, and leaves the third as it is. -/
theorem controls_keep_to_their_sprite_visiting :
    let after := (visiting.perform (.moveTo 1 (.ofFloats 190 190))).stage.store
    ((visiting.reply (.delete 4)).IsFailure ∧ visiting.perform (.delete 4) = visiting) ∧
      (visiting.stage.store.version? 2 = some 1 ∧ after.version? 2 = some 2) ∧
      after.slot? 3 = visiting.stage.store.slot? 3 := by
  intro after
  have hreachable : visiting.Reachable := ⟨Config.default, 0, _, rfl⟩
  have hdelete : (Control.delete 4 : Control Float).named? = some 4 := rfl
  have hmove : (Control.moveTo 1 (.ofFloats 190 190) : Control Float).named? = some 1 := rfl
  have hfails := (controls_keep_to_their_sprite hreachable hdelete).1 (by decide +kernel)
  obtain ⟨-, -, hothers⟩ := (controls_keep_to_their_sprite hreachable hmove).2 (by decide +kernel) 3 (by decide)
  refine ⟨hfails, by decide +kernel, ?_⟩
  by_contra hchanged
  obtain ⟨-, pair, hinvolved, hnow, -⟩ := hothers hchanged
  have hpairs : after.overlappingPairs = [⟨1, 2⟩] := by decide +kernel
  rw [show pair = ⟨1, 2⟩ from List.mem_singleton.1 (hpairs ▸ hnow)] at hinvolved
  cases hinvolved

end Session

end SpriteStage
