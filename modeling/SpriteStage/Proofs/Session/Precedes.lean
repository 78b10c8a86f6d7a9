import SpriteStage.Proofs.Session.Consistent

namespace SpriteStage.Session

variable {α : Type}

/-- The tasks of the later session are new, or they are tasks of the earlier one. -/
structure Precedes (before after : Session α) : Prop where
  config : after.stage.config = before.stage.config
  grows : before.stage.registry.Grows after.stage.registry
  nextTask_le : before.nextTask ≤ after.nextTask
  task? : ∀ id t, id < before.nextTask → after.task? id = some t → ∃ old,
    before.task? id = some old ∧ old.sprite = t.sprite ∧ old.token = t.token ∧ old.isChain = t.isChain

namespace Precedes

theorem refl (s : Session α) : s.Precedes s :=
  ⟨rfl, .refl _, Nat.le_refl _, fun _ t _ ht => ⟨t, ht, rfl, rfl, rfl⟩⟩

theorem trans {first middle last : Session α} (hfirst : first.Precedes middle)
    (hlast : middle.Precedes last) : first.Precedes last := by
  have hle := hfirst.nextTask_le
  refine ⟨hlast.config.trans hfirst.config, hfirst.grows.trans hlast.grows,
    Nat.le_trans hle hlast.nextTask_le, ?_⟩
  intro id t hid ht
  obtain ⟨later, hlater, hsprite, htoken, hchain⟩ := hlast.task? id t (by omega) ht
  obtain ⟨old, hold, hsprite', htoken', hchain'⟩ := hfirst.task? id later hid hlater
  exact ⟨old, hold, hsprite'.trans hsprite, htoken'.trans htoken, hchain'.trans hchain⟩

/-- A task that is still under way is a task of the same sprite with the same token. -/
theorem of_task?_eq_some {before after : Session α} (h : before.Precedes after) {id : Nat} {t now : Task α}
    (hid : id < before.nextTask) (ht : before.task? id = some t) (hnow : after.task? id = some now) :
    t.sprite = now.sprite ∧ t.token = now.token ∧ t.isChain = now.isChain := by
  obtain ⟨old, hold, hkept⟩ := h.task? id now hid hnow
  rw [ht, Option.some.injEq] at hold
  exact hold ▸ hkept

/-- A task that is not under way is not under way later either. -/
theorem task?_eq_none {before after : Session α} (h : before.Precedes after) {id : Nat}
    (hid : id < before.nextTask) (hnone : before.task? id = none) : after.task? id = none := by
  cases hafter : after.task? id with
  | none => rfl
  | some t =>
    obtain ⟨old, hold, _⟩ := h.task? id t hid hafter
    rw [hnone] at hold
    cases hold

/-- Handing on every old task as it is. -/
theorem of_task?_eq {before after : Session α} (hconfig : after.stage.config = before.stage.config)
    (hgrows : before.stage.registry.Grows after.stage.registry)
    (hle : before.nextTask ≤ after.nextTask)
    (htask : ∀ id, id < before.nextTask → after.task? id = before.task? id) :
    before.Precedes after :=
  ⟨hconfig, hgrows, hle, fun id t hid ht => ⟨t, (htask id hid).symm.trans ht, rfl, rfl, rfl⟩⟩

end Precedes

variable [Scalar α]

namespace Move

/-- A move of a control operation changes no task that is under way. -/
theorem task?_eq {s after : Session α} (hmove : Move s after) :
    s.nextTask ≤ after.nextTask ∧ ∀ id, id < s.nextTask → after.task? id = s.task? id := by
  cases hmove with
  | start hknown chain =>
    refine ⟨Nat.le_succ _, ?_⟩
    intro id hid
    exact task?_spawn _ _ _ hid
  | _ => exact ⟨Nat.le_refl _, fun _ _ => rfl⟩

/-- No move takes a token back. -/
theorem grows {s after : Session α} (hmove : Move s after) :
    s.stage.registry.Grows after.stage.registry := by
  cases hmove with
  | edit id hedit =>
    simp only [onStage, Stage.registry_commit]
    exact .refl _
  | delete id =>
    simp only [onStage, Stage.delete]
    split
    · exact .cancelSprite _ _
    · exact .refl _
  | undo =>
    simp only [onStage, Stage.undoLast]
    split
    · exact .refl _
    · rw [Stage.registry_commit]
      exact .cancelChains _ _
  | reset => exact .cancelAll _
  | switchHero enabled => cases enabled <;> exact .refl _
  | halt hknown => exact .cancelChains _ _
  | start hknown chain =>
    rw [registry_startChain]
    exact .startChain _ _
  | add kind => exact .refl _
  | select id => exact .refl _
  | unselect => exact .refl _
  | movePointer pointer => exact .refl _

/-- No move changes the settings. -/
theorem config {s after : Session α} (hmove : Move s after) :
    after.stage.config = s.stage.config := by
  cases hmove with
  | edit id hedit => exact Stage.config_commit _ _ _
  | delete id =>
    simp only [onStage, Stage.delete]
    split <;> rfl
  | undo =>
    simp only [onStage, Stage.undoLast]
    split
    · rfl
    · exact Stage.config_commit _ _ _
  | switchHero enabled => cases enabled <;> rfl
  | start hknown chain => exact Stage.config_commit _ _ _
  | _ => rfl

/-- What is under way before a move is accounted for behind it. -/
theorem precedes {s after : Session α} (hmove : Move s after) : s.Precedes after :=
  .of_task?_eq hmove.config hmove.grows hmove.task?_eq.1 hmove.task?_eq.2

end Move

theorem precedes_of_moves {s after : Session α} (hmoves : Relation.ReflTransGen Move s after) :
    s.Precedes after :=
  moves_induction hmoves (.refl s) fun _ _ hbefore hmove => hbefore.trans hmove.precedes

/-- A control operation changes no task that is under way. -/
theorem task?_perform (control : Control α) (s : Session α) {id : Nat} (hid : id < s.nextTask) :
    (s.perform control).task? id = s.task? id := by
  have hkept := moves_induction (motive := fun after =>
    s.nextTask ≤ after.nextTask ∧ after.task? id = s.task? id) (moves_perform control s)
    ⟨Nat.le_refl _, rfl⟩ ?_
  · exact hkept.2
  · rintro before after ⟨hle, htask⟩ hmove
    obtain ⟨hle', htask'⟩ := hmove.task?_eq
    exact ⟨Nat.le_trans hle hle', (htask' id (by omega)).trans htask⟩

/-- A step of a task gives out ids upwards. -/
theorem nextTask_le_runTask (t : Task α) (s : Session α) : s.nextTask ≤ (s.runTask t).nextTask := by
  rw [runTask_eq]
  obtain ⟨stage, next, timer⟩ := t.step s.now s.stage
  cases next <;> cases timer <;> first | exact Nat.le_refl _ | exact Nat.le_succ _

/-- A task changes by its own steps only. -/
theorem task?_handle {s : Session α} {id : Nat} (hid : id < s.nextTask)
    {event : Event α} (hother : event ≠ .step id) : (s.handle event).task? id = s.task? id := by
  cases event with
  | control control => exact task?_perform control s hid
  | step other =>
    have hne : id ≠ other := fun hsame => hother (hsame ▸ rfl)
    simp only [Session.handle]
    cases ht : s.task? other with
    | none => rfl
    | some t =>
      obtain ⟨_, rfl⟩ := mem_of_task? ht
      rw [task?_runTask ht hid, if_neg hne]
  | pass ms => rfl

namespace Consistent

theorem precedes_runTask {s : Session α} (h : s.Consistent) {t : Task α} (ht : t ∈ s.tasks) :
    s.Precedes (s.runTask t) := by
  have hstepped := h.stepped ht
  refine ⟨?_, ?_, s.nextTask_le_runTask t, ?_⟩
  · rw [stage_runTask]
    exact hstepped.config
  · rw [stage_runTask]
    exact hstepped.grows
  · intro id other hid hother
    rw [task?_runTask (h.task?_eq_some_iff.2 ⟨ht, rfl⟩) hid] at hother
    split at hother
    case isTrue hsame =>
      obtain ⟨⟨work, pause⟩, hnext, rfl⟩ := Option.map_eq_some_iff.1 hother
      refine ⟨t, h.task?_eq_some_iff.2 ⟨ht, hsame.symm⟩, (t.sprite_resume ..).symm,
        (t.token_resume ..).symm, ?_⟩
      exact (hstepped.isChain_of_next hnext (t.work_resume ..)).symm
    case isFalse => exact ⟨other, hother, rfl, rfl, rfl⟩

/-- What is under way before an event is accounted for behind it. -/
theorem precedes_handle {s : Session α} (h : s.Consistent) (event : Event α) :
    s.Precedes (s.handle event) := by
  cases event with
  | control control => exact precedes_of_moves (moves_perform control s)
  | step id =>
    simp only [Session.handle]
    cases ht : s.task? id with
    | none => exact .refl s
    | some t => exact h.precedes_runTask (mem_of_task? ht).1
  | pass ms => exact .of_task?_eq rfl (.refl _) (Nat.le_refl _) fun _ _ => rfl

/-- What is under way before a run is accounted for behind it. -/
theorem precedes_play {s : Session α} (h : s.Consistent) (events : List (Event α)) :
    s.Precedes (s.play events) := by
  induction events generalizing s with
  | nil => exact .refl s
  | cons event rest ih => exact (h.precedes_handle event).trans (ih (h.handle event))

end Consistent

/-- The step limit of a session that comes about is not zero, since settings are checked. -/
theorem Reachable.maxSteps_pos {s : Session α} (hs : s.Reachable) : 0 < s.stage.config.maxSteps := by
  obtain ⟨config, entropy, events, rfl⟩ := hs
  rw [((Consistent.new config entropy).precedes_play events).config]
  exact Nat.lt_of_lt_of_le Nat.zero_lt_one (Nat.le_max_right config.maxSteps 1)

/-- The time between two frames is not zero in a session that comes about. -/
theorem Reachable.frameIntervalMs_pos {s : Session α} (hs : s.Reachable) :
    0 < s.stage.config.frameIntervalMs := by
  obtain ⟨config, entropy, events, rfl⟩ := hs
  rw [((Consistent.new config entropy).precedes_play events).config]
  exact Nat.lt_of_lt_of_le Nat.zero_lt_one (Nat.le_max_right config.frameIntervalMs 1)

end SpriteStage.Session
