import SpriteStage.Proofs.Session.Background
import SpriteStage.Proofs.Task.Confined

namespace SpriteStage

variable {α : Type}

/-- What a task is to its sprite, wherever and whenever it was started. -/
def Task.view (t : Task α) : Token × Work α :=
  (t.token, t.work.untimed)

/-- A step that starts a timer leaves the registry with a token for it to watch. -/
theorem Task.Stepped.speechToken_live [Scalar α] {stage : Stage α} {t : Task α} {result : StepResult α}
    (h : t.Stepped stage result) {delay : Delay} (htimer : result.timer = some delay) :
    result.stage.registry.isCancelled (result.stage.registry.speechToken t.sprite) = false := by
  cases h with
  | staysOn hlive hchain hstays =>
    have hregistry := hstays.registry
    rw [htimer, Option.isSome_some, if_pos rfl] at hregistry
    have hwork : result.stage.registry.work? t.sprite = some (stage.registry.entry t.sprite) := by
      rw [hregistry, TaskRegistry.work?_ensure, if_pos rfl]
    exact (TaskRegistry.holds_speechToken hwork).live
  | cancelled | signOff | armed | cleared => cases htimer

namespace Session

/-- The tasks of a sprite that were not cancelled, in the order in which they came in. -/
def pending (s : Session α) (id : Nat) : List (Task α) :=
  s.tasks.filter fun t => t.sprite = id && !s.stage.registry.isCancelled t.token

/-- The pending tasks of a sprite are its tasks under way whose token was not cancelled. -/
theorem mem_pending_iff {s : Session α} {id : Nat} {t : Task α} : t ∈ s.pending id ↔
    t ∈ s.tasks ∧ t.sprite = id ∧ s.stage.registry.isCancelled t.token = false := by
  simp [pending]

/-- What the tasks of a sprite that were not cancelled are to it. -/
def views (s : Session α) (id : Nat) : List (Token × Work α) :=
  (s.pending id).map Task.view

/-- A step that a sprite sees: the place of the task among those of the sprite that were not cancelled,
    and how long the glide has lasted that the task is in. -/
structure OwnStep where
  place : Nat
  elapsed : Nat
deriving DecidableEq, Repr

/-- The step of one of its tasks that a sprite sees at an event. -/
def ownStep? (id : Nat) (event : Event α) (s : Session α) : Option OwnStep :=
  match event with
  | .step n =>
    (s.task? n).bind fun t =>
      ((s.pending id).findIdx? (·.id = n)).map fun place => ⟨place, t.work.elapsed s.now⟩
  | _ => none

/-- Two sessions are the same to a sprite. -/
structure SameView (id : Nat) (s other : Session α) : Prop where
  stage : s.stage.SameFor id other.stage
  views : other.views id = s.views id

namespace SameView

variable {id : Nat} {s other : Session α}

theorem refl (id : Nat) (s : Session α) : s.SameView id s :=
  ⟨.refl id s.stage, rfl⟩

theorem symm (h : s.SameView id other) : other.SameView id s :=
  ⟨h.stage.symm, h.views.symm⟩

theorem trans {last : Session α} (hfirst : s.SameView id other) (hlast : other.SameView id last) :
    s.SameView id last :=
  ⟨hfirst.stage.trans hlast.stage, hlast.views.trans hfirst.views⟩

end SameView

/-- At the same place among the tasks of the sprite, the same is still to do on both sides. -/
theorem SameView.resembles {id : Nat} {s other : Session α} (hsame : s.SameView id other)
    {front back before behind : List (Task α)} {t u : Task α} (hpending : s.pending id = front ++ t :: back)
    (hwaiting : other.pending id = before ++ u :: behind) (hplace : before.length = front.length) :
    u.Resembles t ∧ before.map Task.view = front.map Task.view ∧
      behind.map Task.view = back.map Task.view := by
  have ht : t ∈ s.pending id := by simp [hpending]
  have hu : u ∈ other.pending id := by simp [hwaiting]
  obtain ⟨_, htSprite, _⟩ := mem_pending_iff.1 ht
  obtain ⟨_, huSprite, _⟩ := mem_pending_iff.1 hu
  have hviews : before.map Task.view ++ u.view :: behind.map Task.view =
      front.map Task.view ++ t.view :: back.map Task.view := by
    simpa [Session.views, hpending, hwaiting] using hsame.views
  obtain ⟨hfront, hrest⟩ := List.append_inj hviews (by simpa using hplace)
  obtain ⟨hview, hback⟩ := List.cons.inj hrest
  have hresembles : u.Resembles t :=
    ⟨huSprite.trans htSprite.symm, congrArg Prod.fst hview, congrArg Prod.snd hview⟩
  exact ⟨hresembles, hfront, hback⟩

/-- No two pending tasks have the same id. -/
theorem Consistent.nodup_pending {s : Session α} (h : s.Consistent) (id : Nat) :
    ((s.pending id).map (·.id)).Nodup :=
  h.accounts.nodup.sublist (List.filter_sublist.map _)

/-- A sprite sees a step of one of its tasks that was not cancelled, at the place of that task. -/
theorem Consistent.ownStep?_eq_some {s : Session α} (h : s.Consistent) {id : Nat} {event : Event α}
    {own : OwnStep} (hown : s.ownStep? id event = some own) : ∃ t front back,
      event = .step t.id ∧ s.task? t.id = some t ∧ s.pending id = front ++ t :: back ∧
        front.length = own.place ∧ t.work.elapsed s.now = own.elapsed := by
  unfold ownStep? at hown
  split at hown
  case h_1 n =>
    obtain ⟨t, ht, hplaced⟩ := Option.bind_eq_some_iff.1 hown
    obtain ⟨place, hplace, rfl⟩ := Option.map_eq_some_iff.1 hplaced
    obtain ⟨htMem, rfl⟩ := mem_of_task? ht
    obtain ⟨hlt, hfound, _⟩ := List.findIdx?_eq_some_iff_getElem.1 hplace
    have hmem : (s.pending id)[place] ∈ s.pending id := List.getElem_mem hlt
    have hid : (s.pending id)[place].id = t.id := of_decide_eq_true hfound
    have heq : (s.pending id)[place] = t := h.accounts.eq_of_id (mem_pending_iff.1 hmem).1 htMem hid
    refine ⟨t, (s.pending id).take place, (s.pending id).drop (place + 1), rfl, ht, ?_, ?_, rfl⟩
    · rw [← heq, List.getElem_cons_drop, List.take_append_drop]
    · exact List.length_take_of_le (Nat.le_of_lt hlt)
  case h_2 => cases hown

/-- A sprite does not see the steps of other sprites' tasks, nor those of cancelled tasks. -/
theorem not_mem_pending_of_ownStep? {s : Session α} {id n : Nat} {t : Task α} (ht : s.task? n = some t)
    (hown : s.ownStep? id (.step n) = none) : t ∉ s.pending id := by
  intro hmem
  simp only [ownStep?, ht, Option.bind_some, Option.map_eq_none_iff, List.findIdx?_eq_none_iff] at hown
  have hne := hown t hmem
  rw [(mem_of_task? ht).2] at hne
  simp at hne

section Reworked

variable {s : Session α} {stage : Stage α}
  (hsame : ∀ t ∈ s.tasks, stage.registry.isCancelled t.token = s.stage.registry.isCancelled t.token)
include hsame

/-- A task that is over is pending no more, and no other task of a sprite goes with it. -/
theorem pending_conclude (t : Task α) (id : Nat) :
    (s.conclude t stage).pending id = (s.pending id).filter (·.id ≠ t.id) := by
  unfold pending conclude
  dsimp only
  rw [List.filter_comm]
  congr 1
  apply List.filter_congr
  intro other hother
  rw [hsame other hother]

/-- A task that goes on is resumed where it stands, and all others are left alone. -/
theorem pending_proceed (t : Task α) (work : Work α) (pause id : Nat) :
    (s.proceed t stage work pause).pending id = (s.pending id).map fun other =>
      if other.id = t.id then other.resume work pause s.now s.nextStamp else other := by
  unfold pending proceed
  dsimp only
  rw [List.filter_map]
  congr 1
  apply List.filter_congr
  intro other hother
  rw [Function.comp_apply, ← hsame other hother]
  split
  · rw [Task.sprite_resume, Task.token_resume]
  · rfl

end Reworked

/-- A new task is seen by its own sprite, if its token was not cancelled. -/
theorem views_spawn (s : Session α) (sprite : Nat) (token : Token) (work : Work α) (id : Nat) :
    (s.spawn sprite token work).views id = s.views id ++
      if sprite = id && !s.stage.registry.isCancelled token then [(token, work.untimed)] else [] := by
  unfold views pending spawn
  dsimp only
  rw [List.filter_append, List.map_append, List.filter_singleton]
  cases decide (sprite = id) && !s.stage.registry.isCancelled token <;> rfl

variable [Scalar α]

/-- What a step of a task leads to for the views of a sprite: what becomes of the tasks, and then the
    timer if the task is one of the sprite. -/
theorem Consistent.views_runTask {s : Session α} (h : s.Consistent) {t : Task α} (ht : t ∈ s.tasks)
    (id : Nat) {stage : Stage α} {left : Option (Work α × Nat)} {timer : Option Delay}
    (hstep : t.step s.now s.stage = ⟨stage, left, timer⟩) :
    (s.runTask t).views id =
      (left.elim ((s.pending id).filter (·.id ≠ t.id)) fun (work, pause) =>
        (s.pending id).map fun other =>
          if other.id = t.id then other.resume work pause s.now s.nextStamp else other).map Task.view ++
      if t.sprite = id then
        (timer.map fun delay => (stage.registry.speechToken t.sprite, .clearSpeech delay false)).toList
      else [] := by
  have hstepped := h.stepped ht
  have hsame (other : Task α) (hother : other ∈ s.tasks) :
      stage.registry.isCancelled other.token = s.stage.registry.isCancelled other.token := by
    have hkept := hstepped.isCancelled (h.accounts.registered other hother).serial_lt
    rwa [hstep] at hkept
  let after := left.elim (s.conclude t stage) fun (work, pause) => s.proceed t stage work pause
  have hafter : after.pending id = left.elim ((s.pending id).filter (·.id ≠ t.id)) fun (work, pause) =>
      (s.pending id).map fun other =>
        if other.id = t.id then other.resume work pause s.now s.nextStamp else other := by
    cases left with
    | none => exact pending_conclude hsame t id
    | some left => exact pending_proceed hsame t left.1 left.2 id
  have hregistry : after.stage = stage := by
    cases left <;> rfl
  rw [runTask_eq, hstep, ← hafter]
  change (timer.elim after fun delay =>
    after.spawn t.sprite (stage.registry.speechToken t.sprite) (.clearSpeech delay false)).views id = _
  cases htimer : timer with
  | none => simp [views]
  | some delay =>
    have hlive : stage.registry.isCancelled (stage.registry.speechToken t.sprite) = false := by
      have hstarted : (t.step s.now s.stage).timer = some delay := by rw [hstep, htimer]
      have hwatched := hstepped.speechToken_live hstarted
      rwa [hstep] at hwatched
    rw [Option.elim_some, views_spawn, hregistry, hlive]
    simp [views, Work.untimed]

/-- What becomes of the views of the sprite of a task that takes a step. -/
theorem Consistent.views_runTask_own {s : Session α} (h : s.Consistent) {t : Task α}
    {front back : List (Task α)} (hpending : s.pending t.sprite = front ++ t :: back) {stage : Stage α}
    {left : Option (Work α × Nat)} {timer : Option Delay}
    (hstep : t.step s.now s.stage = ⟨stage, left, timer⟩) :
    (s.runTask t).views t.sprite =
      front.map Task.view ++ ((left.map (·.1.untimed)).map fun work => (t.token, work)).toList ++
        back.map Task.view ++
        (timer.map fun delay => (stage.registry.speechToken t.sprite, .clearSpeech delay false)).toList := by
  have hmem : t ∈ s.pending t.sprite := by
    rw [hpending]
    exact List.mem_append_right front List.mem_cons_self
  have hnodup := h.nodup_pending t.sprite
  rw [hpending] at hnodup
  rw [h.views_runTask (mem_pending_iff.1 hmem).1 t.sprite hstep, if_pos rfl, hpending]
  congr 1
  cases left with
  | none =>
    rw [Option.elim_none, Keyed.remove_middle Task.id hnodup]
    simp
  | some left =>
    obtain ⟨work, pause⟩ := left
    dsimp only [Option.elim_some]
    rw [Keyed.change_middle Task.id hnodup (·.resume work pause s.now s.nextStamp)]
    simp [Task.view]

/-- A sprite does not see what becomes of a task that it has no view of. -/
theorem Consistent.views_runTask_of_not_mem {s : Session α} (h : s.Consistent) {t : Task α}
    (ht : t ∈ s.tasks) {id : Nat} (hnot : t ∉ s.pending id) : (s.runTask t).views id = s.views id := by
  have hne (other : Task α) (hother : other ∈ s.pending id) : other.id ≠ t.id := by
    intro hid
    rw [h.accounts.eq_of_id (mem_pending_iff.1 hother).1 ht hid] at hother
    exact hnot hother
  obtain ⟨stage, left, timer, hstep⟩ : ∃ stage left timer, t.step s.now s.stage = ⟨stage, left, timer⟩ :=
    ⟨_, _, _, rfl⟩
  have htimer : (if t.sprite = id then (timer.map fun delay =>
      (stage.registry.speechToken t.sprite, (.clearSpeech delay false : Work α))).toList else []) = [] := by
    split
    case isTrue hid =>
      have hcancelled : s.stage.registry.isCancelled t.token = true := by
        by_contra hlive
        exact hnot (mem_pending_iff.2 ⟨ht, hid, by simpa using hlive⟩)
      rw [Task.step_of_cancelled hcancelled] at hstep
      cases hstep
      rfl
    case isFalse => rfl
  rw [h.views_runTask ht id hstep, htimer, List.append_nil, views]
  congr 1
  cases left with
  | none =>
    apply List.filter_eq_self.2
    intro other hother
    simpa using hne other hother
  | some left =>
    dsimp only [Option.elim_some]
    rw [List.map_congr_left, List.map_id]
    intro other hother
    exact if_neg (hne other hother)

end Session

end SpriteStage
