import SpriteStage.Proofs.Session.Silent
import SpriteStage.Proofs.Session.Step
import SpriteStage.Proofs.Task.Writes

namespace SpriteStage

variable {α : Type}

/-- After the deletion of a sprite only that one is missing. -/
theorem Stage.get?_delete (id other : Nat) (stage : Stage α) :
    (stage.delete id).store.get? other = if other = id then none else stage.store.get? other := by
  unfold delete
  split
  case isTrue => exact stage.store.get?_remove id other
  case isFalse hunknown =>
    split
    case isTrue hid => rw [hid, Store.get?_of_unknown hunknown]
    case isFalse => rfl

/-- A reset leaves a sprite its program and takes its bubble down. -/
theorem Store.get?_foldl_reset [Scalar α] (ids : List Nat) {store : Store α} {id : Nat}
    {sprite next : Sprite α} (hsprite : store.get? id = some sprite)
    (hnext : (ids.foldl (fun store id => store.update id Sprite.reset) store).get? id = some next) :
    next.program = sprite.program ∧ (next.speech = sprite.speech ∨ next.speech = .cleared) := by
  induction ids generalizing store sprite with
  | nil =>
    rw [List.foldl_nil, hsprite] at hnext
    cases hnext
    exact ⟨rfl, Or.inl rfl⟩
  | cons other rest ih =>
    rw [List.foldl_cons] at hnext
    have hfirst := store.get?_update other id Sprite.reset
    split at hfirst
    case isTrue hid =>
      subst hid
      rw [hsprite, Option.map_some] at hfirst
      obtain ⟨hprogram, hspeech⟩ := ih hfirst hnext
      refine ⟨hprogram, Or.inr ?_⟩
      rcases hspeech with hspeech | hspeech <;> exact hspeech
    case isFalse => exact ih (hfirst.trans hsprite) hnext

namespace Session

/-- Whether an event switches Hero Mode on or off, if it switches it. -/
def switched? (event : Event α) (s : Session α) : Option Bool :=
  match event with
  | .control (.switchHero enabled) => some enabled
  | .control .toggleHero => some (!s.stage.hero.enabled)
  | _ => none

/-- Hero Mode in the state in which it reacts to an event. -/
def heroAt (event : Event α) (s : Session α) : HeroMode :=
  (s.switched? event).elim s.stage.hero fun enabled => s.stage.hero.switch enabled

/-- The event gives a sprite a program. -/
def PutsProgram (event : Event α) (s : Session α) (id : Nat) : Prop :=
  match event with
  | .control (.setProgram other _) => other = id
  | .control .undo => s.stage.undone? = some id
  | _ => False

/-- The event puts up a bubble of a sprite. -/
def PutsSpeech (event : Event α) (s : Session α) (id : Nat) : Prop :=
  match event with
  | .control .undo => s.stage.undone? = some id
  | .step n => ∃ t, s.task? n = some t ∧ t.sprite = id ∧ t.Speaks s.stage
  | _ => False

/-- The event takes down the bubble of a sprite. -/
def ClearsSpeech (event : Event α) (s : Session α) (id : Nat) : Prop :=
  match event with
  | .control .reset => True
  | .step n => ∃ t, s.task? n = some t ∧ t.sprite = id ∧ t.Clears
  | _ => False

/-- What a sprite says after an event and its program are what they were, or the event gave them to
    the sprite. -/
structure Gives (event : Event α) (s : Session α) (id : Nat) (sprite next : Sprite α) : Prop where
  program : next.program = sprite.program ∨ PutsProgram event s id
  speech : next.speech = sprite.speech ∨ (ClearsSpeech event s id ∧ next.speech = .cleared) ∨
    PutsSpeech event s id

variable [Scalar α]

/-- What an event makes of a session with Hero Mode left out. -/
def handlePlain (event : Event α) (s : Session α) : Session α :=
  (s.switched? event).elim (s.plain.handle event) fun _ => s.plain

/-- Every move of a control operation keeps the store well-formed. -/
theorem wellFormed_of_move {s after : Session α} (h : s.stage.store.WellFormed) (hmove : Move s after) :
    after.stage.store.WellFormed := by
  cases hmove with
  | edit id hedit => exact Stage.wellFormed_commit h id _
  | add kind => exact (h.add kind).trade _
  | select id => exact h.select id
  | unselect => exact h.unselect
  | delete id =>
    simp only [onStage, Stage.delete]
    split
    · exact h.remove id
    · exact h
  | movePointer pointer => exact h
  | undo =>
    simp only [onStage, Stage.undoLast]
    split
    · exact h
    case h_2 entry rest _ =>
      have hstopped : (({ s.stage with undo := rest } : Stage α).cancelChains entry.id).store.WellFormed :=
        h.update entry.id Sprite.idle
      exact Stage.wellFormed_commit hstopped _ _
  | reset => exact (h.foldl_update _ _).trade _
  | switchHero enabled =>
    cases enabled with
    | true => exact h.trade _
    | false => exact h
  | halt hknown => exact h.update _ _
  | @start id hknown chain =>
    have hstarted :
        ({ s.stage with registry := s.stage.registry.startChain id } : Stage α).store.WellFormed := h
    exact Stage.wellFormed_commit hstarted id _

/-- A step of a task leaves the stage as it is or writes to it once. -/
theorem stage_handle_step (n : Nat) (s : Session α) :
    (s.handle (.step n)).stage = s.stage ∨ ∃ (t : Task α) (w : Write α), s.task? n = some t ∧
      w.Fits s.stage t.sprite t.Clears (t.Speaks s.stage) ∧
      (s.handle (.step n)).stage = s.stage.write t.sprite w := by
  simp only [handle]
  cases ht : s.task? n with
  | none => exact Or.inl rfl
  | some t =>
    obtain ⟨w, next, timer, hfits, hwrite⟩ := t.step_eq_write s.now s.stage
    have hhere : t.step s.now s.stage = ⟨s.stage.write t.sprite w, next, timer⟩ :=
      hwrite s.stage.hero
    refine Or.inr ⟨t, w, rfl, hfits, ?_⟩
    rw [stage_runTask, hhere]

/-- Every event keeps the store well-formed, whatever tasks are under way. -/
theorem wellFormed_handle {s : Session α} (h : s.stage.store.WellFormed) (event : Event α) :
    (s.handle event).stage.store.WellFormed := by
  cases event with
  | control control =>
    exact moves_induction (moves_perform control s) h fun _ _ hbefore hmove =>
      wellFormed_of_move hbefore hmove
  | step n =>
    rcases s.stage_handle_step n with hsame | ⟨t, w, _, _, hwrite⟩
    · rwa [hsame]
    · rw [hwrite]
      exact Stage.wellFormed_write h t.sprite w
  | pass ms => exact h

/-- Every event keeps the store well-formed with Hero Mode left out as well. -/
theorem wellFormed_handlePlain {s : Session α} (h : s.stage.store.WellFormed) (event : Event α) :
    (s.handlePlain event).stage.store.WellFormed := by
  have hplain : s.plain.stage.store.WellFormed := h
  unfold handlePlain
  cases s.switched? event with
  | some enabled => exact hplain
  | none => exact wellFormed_handle hplain event

/-- Apart from Hero Mode, a step is the step of its task with Hero Mode off. -/
theorem handlePlain_step (n : Nat) (s : Session α) :
    s.handlePlain (.step n) = (s.task? n).elim s.plain fun t => s.plain.runTask t := by
  have hplain : s.handlePlain (.step n) = s.plain.handle (.step n) := rfl
  have htask : s.plain.task? n = s.task? n := rfl
  rw [hplain, handle, htask]
  cases s.task? n <;> rfl

/-- A step is the step with Hero Mode off, and then Hero Mode catches up. -/
theorem handle_step_eq_catchUp {s : Session α} (h : s.stage.Tracked) (n : Nat) :
    s.handle (.step n) = (s.handlePlain (.step n)).onStage (.catchUp s.stage.hero) := by
  rw [handlePlain_step, handle]
  cases s.task? n with
  | none => exact congrArg (fun stage => { s with stage := stage }) h.catchUp.symm
  | some t =>
    obtain ⟨w, next, timer, _, hwrite⟩ := t.step_eq_write s.now s.stage
    have hhere : t.step s.now s.stage = ⟨s.stage.write t.sprite w, next, timer⟩ :=
      hwrite s.stage.hero
    have hplain : t.step s.plain.now s.plain.stage = ⟨s.plain.stage.write t.sprite w, next, timer⟩ :=
      hwrite .off
    have hstage : s.stage.write t.sprite w = (s.plain.stage.write t.sprite w).catchUp s.stage.hero :=
      h.write t.sprite w
    simp only [Option.elim_some, runTask_eq, hhere, hplain, hstage]
    rcases next with _ | ⟨work, pause⟩ <;> cases timer <;> rfl

/-- Hero Mode adds to an event that the pairs trade that it does not know. -/
theorem handle_eq_catchUp {s : Session α} (h : s.stage.Tracked) (event : Event α) :
    s.handle event = (s.handlePlain event).onStage (.catchUp (s.heroAt event)) := by
  have hstage {change : Stage α → Stage α} (heq : change s.stage =
      (change (s.stage.withHero .off)).catchUp s.stage.hero) :
      s.onStage change = (s.plain.onStage change).onStage (.catchUp s.stage.hero) :=
    congrArg (fun stage => { s with stage := stage }) heq
  have hsilent {change : Session α → Session α} (hchange : Silent change) :
      change s = (change s.plain).onStage (.catchUp s.stage.hero) := by
    have hcaughtUp := (hchange.tracked s h).catchUp
    rw [hchange.hero s h] at hcaughtUp
    rw [hchange.plain s h]
    exact congrArg (fun stage => { change s with stage := stage }) hcaughtUp.symm
  have hswitch (enabled : Bool) : s.onStage (.switchHero enabled) =
      s.plain.onStage (.catchUp (s.stage.hero.switch enabled)) := by
    cases enabled <;> rfl
  cases event with
  | pass ms => exact congrArg (fun stage => { s with stage := stage, now := s.now + ms }) h.catchUp.symm
  | step n => exact handle_step_eq_catchUp h n
  | control control =>
    cases control with
    | add kind => rfl
    | select id =>
      have hlayout : (s.stage.store.select id).layout = s.stage.store.layout := by
        unfold Store.select
        split <;> rfl
      have hselected : (s.stage.select id).Tracked :=
        h.of_layout (h.wellFormed.select id) rfl hlayout
      exact hstage hselected.catchUp.symm
    | unselect => exact hstage (show s.stage.unselect.Tracked from ⟨h.wellFormed.unselect, h.knows⟩).catchUp.symm
    | delete id => exact hstage (h.delete id)
    | setPosition id axis value => exact hstage (h.commit id _)
    | moveTo id position => exact hstage (h.commit id _)
    | setRotation id rotation => exact hstage (h.commit id _)
    | changeSize id delta => exact hstage (h.commit id _)
    | setProgram id program => exact hstage (h.commit id _)
    | movePointer pointer =>
      exact hstage (show (s.stage.movePointer pointer).Tracked from ⟨h.wellFormed, h.knows⟩).catchUp.symm
    | run id => exact hsilent (silent_run id)
    | runAll =>
      have hall := hsilent (silent_startAll Program.topLevel s.stage.store.ids)
      exact hall
    | undo => exact hstage h.undoLast
    | reset => rfl
    | switchHero enabled => exact hswitch enabled
    | toggleHero => exact hswitch (!s.stage.hero.enabled)

/-- Apart from Hero Mode, a step of a task changes its sprite at most. -/
theorem store_handlePlain_step {s : Session α} {n : Nat} {t : Task α} (ht : s.task? n = some t) :
    ∃ w : Write α, w.Fits s.stage t.sprite t.Clears (t.Speaks s.stage) ∧
      (s.handlePlain (.step n)).stage.store =
        w.change.elim s.stage.store fun change => s.stage.store.update t.sprite change := by
  obtain ⟨w, next, timer, hfits, hwrite⟩ := t.step_eq_write s.now s.stage
  have hplain : t.step s.plain.now s.plain.stage = ⟨s.plain.stage.write t.sprite w, next, timer⟩ :=
    hwrite .off
  refine ⟨w, hfits, ?_⟩
  rw [handlePlain_step, ht, Option.elim_some, stage_runTask, hplain]
  exact Stage.store_write_withHero_off t.sprite w s.stage

omit [Scalar α] in
/-- An event that leaves the payload of a sprite alone gives it no program and no bubble. -/
theorem Gives.of_payload? {s after : Session α} {event : Event α} {id : Nat} {sprite next : Sprite α}
    (hsprite : s.stage.store.get? id = some sprite) (hnext : after.stage.store.get? id = some next)
    (hkept : after.stage.store.payload? id = s.stage.store.payload? id) :
    Gives event s id sprite next := by
  obtain ⟨hspeech, hprogram⟩ := Store.speech_program_of_payload? hkept hsprite hnext
  exact ⟨Or.inl hprogram, Or.inl hspeech⟩

omit [Scalar α] in
theorem Gives.of_get? {s after : Session α} {event : Event α} {id : Nat} {sprite next : Sprite α}
    (hsprite : s.stage.store.get? id = some sprite) (hnext : after.stage.store.get? id = some next)
    (hsame : after.stage.store.get? id = s.stage.store.get? id) : Gives event s id sprite next :=
  .of_payload? hsprite hnext (congrArg (Option.map _) hsame)

/-- A step gives no sprite a program, and none but its own a bubble. -/
theorem gives_step {s : Session α} {n id : Nat} {sprite next : Sprite α}
    (hsprite : s.stage.store.get? id = some sprite)
    (hnext : (s.handlePlain (.step n)).stage.store.get? id = some next) :
    Gives (.step n) s id sprite next := by
  cases ht : s.task? n with
  | none =>
    apply Gives.of_get? hsprite hnext
    rw [handlePlain_step, ht]
    rfl
  | some t =>
    obtain ⟨w, hfits, hstore⟩ := store_handlePlain_step ht
    have hupdated (change : Sprite α → Sprite α) := s.stage.store.get?_update t.sprite id change
    cases hchange : w.change with
    | none =>
      rw [hchange] at hstore
      exact .of_get? hsprite hnext (congrArg (Store.get? · id) hstore)
    | some change =>
      rw [hchange, Option.elim_some] at hstore
      by_cases hid : id = t.sprite
      · subst hid
        rw [hstore, hupdated, if_pos rfl, hsprite, Option.map_some, Option.some.injEq] at hnext
        subst hnext
        refine ⟨Or.inl (hfits.program change sprite hchange hsprite), ?_⟩
        rcases hfits.speech change sprite hchange hsprite with hspeech | ⟨hclears, hspeech⟩ | hspeaks
        · exact Or.inl hspeech
        · exact Or.inr (Or.inl ⟨⟨t, ht, rfl, hclears⟩, hspeech⟩)
        · exact Or.inr (Or.inr ⟨t, ht, rfl, hspeaks⟩)
      · apply Gives.of_get? hsprite hnext
        rw [hstore, hupdated, if_neg hid]

/-- An undo gives the undone sprite the payload of its snapshot and no other sprite anything. -/
theorem gives_undo {s : Session α} {id : Nat} {sprite next : Sprite α}
    (hsprite : s.stage.store.get? id = some sprite)
    (hnext : (s.handlePlain (.control .undo)).stage.store.get? id = some next) :
    Gives (.control .undo) s id sprite next := by
  have hstage : (s.handlePlain (.control .undo)).stage = (s.stage.withHero .off).undoLast := rfl
  cases hpop : s.stage.undo.pop? with
  | none =>
    apply Gives.of_get? hsprite hnext
    rw [hstage, Stage.undoLast, show (s.stage.withHero .off).undo.pop? = none from hpop]
    rfl
  | some popped =>
    obtain ⟨entry, rest⟩ := popped
    by_cases hid : id = entry.id
    · subst hid
      have hknown := (s.stage.store.contains_iff_get? entry.id).2 ⟨sprite, hsprite⟩
      have hundone : s.stage.undone? = some entry.id := by
        rw [Stage.undone?_of_pop? hpop, if_pos hknown]
      exact ⟨Or.inr hundone, Or.inr (Or.inr hundone)⟩
    · apply Gives.of_get? hsprite hnext
      rw [hstage, Stage.undoLast_withHero_off hpop, Store.get?_update, if_neg hid,
        Store.get?_update, if_neg hid]

/-- Apart from Hero Mode, a sprite has its program and its bubble from an event that gives it one. -/
theorem gives_handlePlain {s : Session α} (h : s.stage.Tracked) (event : Event α) {id : Nat}
    {sprite next : Sprite α} (hsprite : s.stage.store.get? id = some sprite)
    (hnext : (s.handlePlain event).stage.store.get? id = some next) :
    Gives event s id sprite next := by
  have hsame (hget : (s.handlePlain event).stage.store.get? id = s.stage.store.get? id) :
      Gives event s id sprite next := .of_get? hsprite hnext hget
  have hedit (other : Nat) {change : Sprite α → Sprite α}
      (hstage : (s.handlePlain event).stage = (s.stage.withHero .off).commit other change)
      (hspeech : ∀ sprite, (change sprite).speech = sprite.speech)
      (hprogram : ∀ sprite, (change sprite).program = sprite.program) :
      Gives event s id sprite next := by
    apply Gives.of_payload? hsprite hnext
    rw [hstage, Stage.commit_eq_update]
    exact Store.payload?_update hspeech hprogram id
  have hsilent {change : Session α → Session α} (hchange : Silent change)
      (heq : s.handlePlain event = change s.plain) : Gives event s id sprite next := by
    apply Gives.of_payload? hsprite hnext
    rw [heq]
    exact hchange.payload? _ (tracked_plain h) id
  cases event with
  | pass ms => exact hsame rfl
  | step n => exact gives_step hsprite hnext
  | control control =>
    cases control with
    | add kind =>
      apply hsame
      refine (s.stage.store.get?_add kind id).trans ?_
      rw [hsprite, Option.some_or]
    | select other => exact hsame (s.stage.store.get?_select other id)
    | unselect => exact hsame rfl
    | delete other =>
      have hdeleted := (s.stage.withHero .off).get?_delete other id
      split at hdeleted
      case isTrue => exact absurd (hnext.symm.trans hdeleted) nofun
      case isFalse => exact hsame hdeleted
    | setPosition other axis value =>
      cases axis <;> exact hedit other rfl (fun _ => rfl) fun _ => rfl
    | moveTo other position => exact hedit other rfl (fun _ => rfl) fun _ => rfl
    | setRotation other rotation => exact hedit other rfl (fun _ => rfl) fun _ => rfl
    | changeSize other delta => exact hedit other rfl (fun _ => rfl) fun _ => rfl
    | setProgram other program =>
      have hstore : (s.handlePlain (.control (.setProgram other program))).stage.store =
          s.stage.store.update other fun s => { s with program := program } :=
        congrArg Stage.store (Stage.commit_eq_update other _ s.stage)
      have hupdated := s.stage.store.get?_update other id fun s => { s with program := program }
      rw [← hstore] at hupdated
      split at hupdated
      case isTrue hid =>
        subst hid
        rw [hsprite, hnext, Option.map_some, Option.some.injEq] at hupdated
        subst hupdated
        exact ⟨Or.inr rfl, Or.inl rfl⟩
      case isFalse => exact hsame hupdated
    | movePointer pointer => exact hsame rfl
    | run other => exact hsilent (silent_run other) rfl
    | runAll => exact hsilent (silent_startAll Program.topLevel s.stage.store.ids) rfl
    | undo => exact gives_undo hsprite hnext
    | reset =>
      obtain ⟨hprogram, hspeech⟩ := Store.get?_foldl_reset s.stage.store.ids hsprite hnext
      exact ⟨Or.inl hprogram, hspeech.imp_right fun hcleared => Or.inl ⟨trivial, hcleared⟩⟩
    | switchHero enabled => exact hsame rfl
    | toggleHero => exact hsame rfl

end Session

end SpriteStage
