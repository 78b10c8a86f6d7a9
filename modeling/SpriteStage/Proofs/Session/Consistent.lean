import SpriteStage.Proofs.Session.Moves
import SpriteStage.Proofs.Session.Step
import SpriteStage.Proofs.Stage.Bookkeeping
import SpriteStage.Proofs.Task.Accounts

namespace SpriteStage.Session

variable {α : Type}

/-- The stage agrees with its registry, and the registry with the tasks. -/
structure Consistent (s : Session α) : Prop where
  sound : s.stage.Sound
  accounts : s.stage.registry.Accounts s.tasks s.nextTask

namespace Consistent

/-- A task is found under its id exactly if it is under way, since ids are not given out twice. -/
theorem task?_eq_some_iff {s : Session α} (h : s.Consistent) {id : Nat} {t : Task α} :
    s.task? id = some t ↔ t ∈ s.tasks ∧ t.id = id := by
  constructor
  · exact mem_of_task?
  · rintro ⟨ht, hid⟩
    cases hfound : s.task? id with
    | none => exact absurd hid (by simpa using List.find?_eq_none.1 hfound t ht)
    | some other =>
      obtain ⟨hother, hsame⟩ := mem_of_task? hfound
      rw [h.accounts.eq_of_id hother ht (hsame.trans hid.symm)]

/-- Tasks that were not cancelled belong to sprites that are there. -/
theorem contains_of_live {s : Session α} (h : s.Consistent) {t : Task α} (ht : t ∈ s.tasks)
    (hlive : s.stage.registry.isCancelled t.token = false) :
    s.stage.store.contains t.sprite = true := by
  obtain ⟨work, hwork, _⟩ := (s.stage.registry.isCancelled_eq_false_iff t.token).1 hlive
  rw [(h.accounts.registered t ht).sprite] at hwork
  exact h.sound.known _ (by rw [hwork]; nofun)

variable [Scalar α]

/-- A new session is consistent: nothing runs and nothing is registered. -/
theorem new (config : Config) (entropy : Nat) : (Session.new config entropy : Session α).Consistent :=
  ⟨.new config entropy, .empty⟩

/-- The step of a task under way does to the stage no more than a step may. -/
theorem stepped {s : Session α} (h : s.Consistent) {t : Task α} (ht : t ∈ s.tasks) :
    t.Stepped s.stage (t.step s.now s.stage) :=
  Task.stepped_step (h.contains_of_live ht) s.now

omit [Scalar α] in
/-- A change that touches neither the running flags nor the registry keeps a session consistent. -/
private theorem of_sameRuns {s : Session α} (h : s.Consistent) {change : Stage α → Stage α}
    (hsame : s.stage.SameRuns (change s.stage))
    (hregistry : (change s.stage).registry = s.stage.registry) : (s.onStage change).Consistent := by
  refine ⟨h.sound.of_sameRuns hsame hregistry, ?_⟩
  change (change s.stage).registry.Accounts s.tasks s.nextTask
  rw [hregistry]
  exact h.accounts

omit [Scalar α] in
/-- A task that goes on with other work of the same sort stays accounted for. -/
private theorem proceed {s : Session α} (h : s.Consistent) {t : Task α} (ht : t ∈ s.tasks)
    {stage : Stage α} (hsound : stage.Sound) (hgrown : stage.registry.Accounts s.tasks s.nextTask)
    {work : Work α} (hsort : ∀ other : Task α, other.work = work → other.isChain = t.isChain)
    (pause : Nat) : (s.proceed t stage work pause).Consistent := by
  refine ⟨hsound, hgrown.rework ?_⟩
  intro other hother
  split
  case isTrue hid =>
    have hsame : other = t := h.accounts.eq_of_id hother ht hid
    rw [hsame]
    exact ⟨Task.id_resume .., Task.sprite_resume .., Task.token_resume ..,
      hsort _ (Task.work_resume ..)⟩
  case isFalse => exact ⟨rfl, rfl, rfl, rfl⟩

omit [Scalar α] in
/-- A speech timer watches the token of the timers of its sprite. -/
private theorem spawn_timer {s : Session α} (h : s.Consistent) (id : Nat) (delay : Delay)
    {work : SpriteWork} (hwork : s.stage.registry.work? id = some work) :
    (s.spawn id (s.stage.registry.speechToken id) (.clearSpeech delay false)).Consistent := by
  refine ⟨h.sound, h.accounts.addTimer rfl ⟨rfl, ?_, nofun⟩ rfl⟩
  have hserial := (h.sound.wellFormed id work hwork).2.1
  simpa only [TaskRegistry.speechToken, hwork, Option.elim_some] using hserial

/-- A step of a task keeps a session consistent, however the step ends. -/
theorem runTask {s : Session α} (h : s.Consistent) {t : Task α} (ht : t ∈ s.tasks) :
    (s.runTask t).Consistent := by
  have hstepped := h.stepped ht
  rw [runTask_eq]
  generalize t.step s.now s.stage = result at hstepped
  have hsort {work : Work α} {pause : Nat} (hnext : result.next = some (work, pause)) (other : Task α)
      (hother : other.work = work) : other.isChain = t.isChain :=
    hstepped.isChain_of_next hnext hother
  cases hstepped with
  | cancelled hcancelled => exact ⟨h.sound, h.accounts.remove ht fun _ => hcancelled⟩
  | signOff hlive hwork =>
    have hchain := Task.isChain_of_work hwork
    refine ⟨?_, ?_⟩
    · have hsprite := (h.accounts.registered t ht).sprite
      rw [← hsprite]
      exact h.sound.signOff hlive
    · have hfinish := h.accounts.finishChain ht hchain hlive
      rw [← Stage.registry_signOff] at hfinish
      exact hfinish
  | armed htimer delay pause => exact h.proceed ht h.sound h.accounts (hsort rfl) pause
  | cleared htimer =>
    have hcommit : s.stage.SameRuns (s.stage.commit t.sprite fun s => { s with speech := .cleared }) :=
      Stage.sameRuns_commit fun _ _ => rfl
    refine ⟨h.sound.of_sameRuns hcommit (Stage.registry_commit _ _ _), ?_⟩
    have hremoved := h.accounts.remove ht fun hchain => absurd (hchain.symm.trans htimer) nofun
    rw [← Stage.registry_commit t.sprite fun s => { s with speech := .cleared }] at hremoved
    exact hremoved
  | staysOn hlive hchain hstays =>
    obtain ⟨run, pause, hnext⟩ := hstays.next
    have hregistry := hstays.registry
    simp only [hnext, Option.elim_some]
    cases htimer : result.timer with
    | none =>
      rw [htimer] at hregistry
      have hsound := h.sound.of_sameRuns hstays.sameRuns hregistry
      exact h.proceed ht hsound (hregistry ▸ h.accounts) (hsort hnext) pause
    | some delay =>
      rw [htimer] at hregistry
      have hensured := h.sound.ensure (h.contains_of_live ht hlive)
      have hsame := hstays.sameRuns
      have hsound := hensured.of_sameRuns ⟨hsame.config, hsame.nextId, hsame.running?⟩ hregistry
      have hproceed := h.proceed ht hsound (hregistry ▸ h.accounts.ensure t.sprite)
        (hsort hnext) pause
      have hwork : result.stage.registry.work? t.sprite = some (s.stage.registry.entry t.sprite) := by
        rw [hregistry]
        exact (s.stage.registry.work?_ensure _ _).trans (if_pos rfl)
      exact hproceed.spawn_timer t.sprite delay hwork

omit [Scalar α] in
theorem halt {s : Session α} (h : s.Consistent) (id : Nat) : (s.halt id).Consistent :=
  ⟨(h.sound.cancelChains id).of_sameRuns ⟨rfl, rfl, fun _ => rfl⟩ rfl, h.accounts.cancelChains id⟩

/-- Starting a chain keeps a session consistent: the chain is counted, flagged and given a token of
    its own. -/
theorem startChain {s : Session α} (h : s.Consistent) {id : Nat}
    (hknown : s.stage.store.contains id = true) (chain : Chain) :
    (s.startChain id chain).Consistent := by
  refine ⟨h.sound.startChain hknown, ?_⟩
  have hstart := h.accounts.startChain h.sound.wellFormed
    (t := ⟨s.nextTask, id, (s.stage.registry.startChain id).chainToken id,
      .chain ⟨Cursor.start chain, .dispatch⟩, s.now, s.nextStamp⟩) rfl rfl rfl
  rw [registry_startChain]
  exact hstart

/-- Every move of a control operation keeps a session consistent. -/
theorem move {s after : Session α} (h : s.Consistent) (hmove : Move s after) : after.Consistent := by
  cases hmove with
  | edit id hedit =>
    exact h.of_sameRuns (Stage.sameRuns_commit fun sprite _ => hedit.isRunning sprite)
      (Stage.registry_commit _ _ _)
  | add kind => exact ⟨h.sound.add kind, h.accounts⟩
  | select id =>
    refine h.of_sameRuns ⟨rfl, Store.nextId_select _ _, ?_⟩ rfl
    intro other
    exact congrArg (Option.map _) (Store.get?_select _ _ _)
  | unselect => exact h.of_sameRuns ⟨rfl, rfl, fun _ => rfl⟩ rfl
  | delete id =>
    refine ⟨h.sound.delete id, ?_⟩
    change (s.stage.delete id).registry.Accounts s.tasks s.nextTask
    unfold Stage.delete
    split
    · exact h.accounts.cancelSprite id
    · exact h.accounts
  | movePointer pointer => exact h.of_sameRuns ⟨rfl, rfl, fun _ => rfl⟩ rfl
  | undo =>
    refine ⟨h.sound.undoLast, ?_⟩
    change s.stage.undoLast.registry.Accounts s.tasks s.nextTask
    unfold Stage.undoLast
    split
    · exact h.accounts
    · rw [Stage.registry_commit]
      exact h.accounts.cancelChains _
  | reset => exact ⟨h.sound.reset, h.accounts.cancelAll⟩
  | switchHero enabled =>
    apply h.of_sameRuns (Stage.sameRuns_switchHero enabled s.stage)
    cases enabled <;> rfl
  | halt hknown => exact h.halt _
  | start hknown chain => exact h.startChain hknown chain

theorem moves {s after : Session α} (h : s.Consistent) (hmoves : Relation.ReflTransGen Move s after) :
    after.Consistent :=
  moves_induction hmoves h fun _ _ hbefore hmove => hbefore.move hmove

/-- Every event keeps a session consistent. -/
theorem handle {s : Session α} (h : s.Consistent) (event : Event α) : (s.handle event).Consistent := by
  cases event with
  | control control => exact h.moves (moves_perform control s)
  | step id =>
    simp only [Session.handle]
    cases ht : s.task? id with
    | none => exact h
    | some t => exact h.runTask (mem_of_task? ht).1
  | pass ms => exact ⟨h.sound, h.accounts⟩

end Consistent

/-- Every session that comes about is consistent. -/
theorem Reachable.consistent [Scalar α] {s : Session α} (hs : s.Reachable) : s.Consistent :=
  hs.induction .new fun _ event h => h.handle event

end SpriteStage.Session
