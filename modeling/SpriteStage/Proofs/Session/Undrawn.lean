import SpriteStage.Proofs.Session.OwnSteps

namespace SpriteStage.Session

variable {α : Type} [Scalar α]

/-- With Hero Mode off, each step of a task that draws no random position amends its sprite. -/
theorem Consistent.amends {s : Session α} (h : s.Consistent) (hoff : s.stage.hero = .off) {t : Task α}
    (ht : t ∈ s.tasks) (hdraws : ¬ t.Draws s.stage) (now : Nat) :
    ∃ a next timer, t.Amends s.stage now a next timer := by
  have hown := (h.accounts.registered t ht).sprite
  cases hlive : s.stage.registry.isCancelled t.token with
  | true => exact ⟨_, _, _, Task.amends_of_cancelled hown hlive now⟩
  | false => exact Task.AtWork.amends ⟨hoff, hown, h.contains_of_live ht hlive, hlive⟩ hdraws now

/-- Steps of different sprites commute, whatever the clock says at each of them. -/
theorem Consistent.step_comm {s : Session α} (h : s.Consistent) (hoff : s.stage.hero = .off)
    {t u : Task α} (ht : t ∈ s.tasks) (hu : u ∈ s.tasks) (hsprites : t.sprite ≠ u.sprite)
    (htDraws : ¬ t.Draws s.stage) (huDraws : ¬ u.Draws s.stage) (x y : Nat) :
    (u.step y (t.step x s.stage).stage).stage = (t.step x (u.step y s.stage).stage).stage := by
  obtain ⟨a, _, _, hfirst⟩ := h.amends hoff ht htDraws x
  obtain ⟨b, _, _, hsecond⟩ := h.amends hoff hu huDraws y
  rw [hfirst.stage_step (.refl _ _), hsecond.stage_step (.refl _ _),
    hsecond.stage_step (Stage.sameFor_amend_of_ne hsprites.symm a s.stage),
    hfirst.stage_step (Stage.sameFor_amend_of_ne hsprites b s.stage)]
  exact Stage.amend_comm hsprites.symm a b s.stage

/-- Nobody operates the stage at the event, and only some of the sprites see a step at it. -/
structure AffectsOnly (sprites : Nat → Prop) (event : Event α) (s : Session α) : Prop where
  background : event.IsBackground
  seen : ∀ id, s.ownStep? id event ≠ none → sprites id

/-- Hero Mode is off, and no chain under way of some of the sprites is going to draw a random position. -/
structure Undrawn (sprites : Nat → Prop) (s : Session α) : Prop where
  consistent : s.Consistent
  off : s.stage.hero = .off
  plans : ∀ id, sprites id → ∀ t ∈ s.live id, ∀ b,
    .dispatch b ∈ t.work.plan s.stage.config.maxSteps → ¬ b.is .goToRandom = true

namespace Undrawn

variable {sprites : Nat → Prop} {s other : Session α} {id : Nat}

/-- A step amends the sprite of its task and nothing else. -/
theorem amends (h : s.Undrawn sprites) {n : Nat} {t : Task α} (ht : s.task? n = some t)
    (haffects : s.AffectsOnly sprites (.step n)) :
    ∃ a next timer, t.Amends s.stage s.now a next timer := by
  obtain ⟨htMem, _⟩ := mem_of_task? ht
  apply h.consistent.amends h.off htMem
  rintro ⟨b, hact, hb⟩
  obtain ⟨hlive, _, cursor, rest, hwork, _⟩ := Task.dispatch_of_act? hact
  have hsees : sprites t.sprite := by
    apply haffects.seen
    intro hunseen
    exact not_mem_pending_of_ownStep? ht hunseen (mem_pending_iff.2 ⟨htMem, rfl, hlive⟩)
  have hmem : t ∈ s.live t.sprite := mem_live_iff.2 ⟨htMem, Task.isChain_of_work hwork, rfl, hlive⟩
  exact h.plans _ hsees t hmem b (Task.mem_plan_of_act? hact) hb

/-- An event of such a session leaves what all sprites share as it is. -/
theorem sameFrame_handle (h : s.Undrawn sprites) {event : Event α}
    (haffects : s.AffectsOnly sprites event) : s.stage.SameFrame (s.handle event).stage := by
  cases event with
  | control control => exact haffects.background.elim
  | pass ms => exact .refl s.stage
  | step n =>
    simp only [Session.handle]
    cases ht : s.task? n with
    | none => exact .refl s.stage
    | some t =>
      obtain ⟨a, _, _, hamends⟩ := h.amends ht haffects
      dsimp only
      rw [stage_runTask, hamends.stage_step (.refl _ _)]
      exact .amend t.sprite a s.stage

/-- An event of such a session makes one of the same sort of it. -/
theorem handle (h : s.Undrawn sprites) {event : Event α} (haffects : s.AffectsOnly sprites event) :
    (s.handle event).Undrawn sprites := by
  have hframe := h.sameFrame_handle haffects
  refine ⟨h.consistent.handle event, hframe.hero.trans h.off, ?_⟩
  intro id hid next hnext b hb
  rw [hframe.config] at hb
  obtain ⟨t, ht, _, hwork⟩ := h.consistent.live_background haffects.background hnext
  apply h.plans id hid t ht b
  rcases hwork with hsame | ⟨pause, hleft⟩
  · rwa [hsame] at hb
  · obtain ⟨hmem, hchain, _, hlive⟩ := mem_live_iff.1 ht
    rw [Task.plan_step hlive (h.consistent.contains_of_live hmem hlive) hchain s.now, hleft]
    exact List.mem_append_right _ hb

/-- An event at which a sprite sees no step changes nothing for it. -/
theorem sameView_handle_of_unseen (h : s.Undrawn sprites) {event : Event α}
    (haffects : s.AffectsOnly sprites event) (hunseen : s.ownStep? id event = none) :
    s.SameView id (s.handle event) := by
  cases event with
  | control control => exact haffects.background.elim
  | pass ms => exact ⟨.refl id s.stage, rfl⟩
  | step n =>
    simp only [Session.handle]
    cases ht : s.task? n with
    | none => exact .refl id s
    | some t =>
      obtain ⟨htMem, _⟩ := mem_of_task? ht
      have hnot := not_mem_pending_of_ownStep? ht hunseen
      refine ⟨?_, h.consistent.views_runTask_of_not_mem htMem hnot⟩
      dsimp only
      rw [stage_runTask]
      by_cases hid : t.sprite = id
      · have hcancelled : s.stage.registry.isCancelled t.token = true := by
          by_contra hlive
          exact hnot (mem_pending_iff.2 ⟨htMem, hid, by simpa using hlive⟩)
        rw [Task.step_of_cancelled hcancelled]
        exact .refl id s.stage
      · obtain ⟨a, _, _, hamends⟩ := h.amends ht haffects
        rw [hamends.stage_step (.refl _ _)]
        exact Stage.sameFor_amend_of_ne (Ne.symm hid) a s.stage

/-- Events at which a sprite sees the same step have the same outcome for it. -/
theorem sameView_handle (h : s.Undrawn sprites) (hother : other.Undrawn sprites)
    (hsame : s.SameView id other) {event next : Event α} (haffects : s.AffectsOnly sprites event)
    {own : OwnStep} (hown : s.ownStep? id event = some own)
    (hnext : other.ownStep? id next = some own) :
    (s.handle event).SameView id (other.handle next) := by
  obtain ⟨t, front, back, rfl, ht, hpending, hplace, helapsed⟩ := h.consistent.ownStep?_eq_some hown
  obtain ⟨u, before, behind, rfl, hu, hwaiting, hplaced, hlasted⟩ :=
    hother.consistent.ownStep?_eq_some hnext
  obtain ⟨hresembles, hfront, hback⟩ := hsame.resembles hpending hwaiting (hplaced.trans hplace.symm)
  have htMem : t ∈ s.pending id := by simp [hpending]
  obtain ⟨htTask, rfl, hlive⟩ := mem_pending_iff.1 htMem
  -- Both steps amend the sprite in the same way, and leave the same to do.
  obtain ⟨a, left, timer, hamends⟩ := h.amends ht haffects
  obtain ⟨first, hfirst, hleft⟩ := hamends s.stage t s.now (.refl _ _) ⟨rfl, rfl, rfl⟩ rfl
  obtain ⟨second, hsecond, hleft'⟩ :=
    hamends other.stage u other.now hsame.stage hresembles (hlasted.trans helapsed.symm)
  have hstage := hsame.stage.amend t.sprite a
  simp only [Session.handle, ht, hu]
  refine ⟨?_, ?_⟩
  · rw [stage_runTask, stage_runTask, hfirst, hsecond]
    exact hstage
  · have hstill : (s.stage.amend t.sprite a).registry.isCancelled t.token = false := by
      have hserial := (h.consistent.accounts.registered t htTask).serial_lt
      have hkept := (h.consistent.stepped htTask).isCancelled hserial
      rw [hfirst] at hkept
      exact hkept.trans hlive
    have hspeech := hstage.speechToken (h.consistent.accounts.registered t htTask).sprite hstill
    have hviews' := hother.consistent.views_runTask_own (hresembles.sprite ▸ hwaiting) hsecond
    rw [hresembles.sprite, hresembles.token, hleft', hfront, hback, hspeech] at hviews'
    rw [h.consistent.views_runTask_own hpending hfirst, hleft]
    exact hviews'

end Undrawn

end SpriteStage.Session
