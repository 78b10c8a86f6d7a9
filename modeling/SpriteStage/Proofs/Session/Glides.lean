import SpriteStage.Proofs.Session.Acts
import SpriteStage.Proofs.Session.Cancellation
import SpriteStage.Proofs.Session.Punctual
import SpriteStage.Proofs.Task.Phases

namespace SpriteStage

variable {α : Type}

/-- A glide that a chain is in, and the place at which the chain goes on after it. -/
structure Glide (α : Type) where
  rest : Cursor
  origin : Position α
  target : Position α
  durationMs : Float
  started : Nat

namespace Glide

def work (g : Glide α) : Work α :=
  .chain ⟨g.rest, .glide g.origin g.target g.durationMs g.started⟩

variable [Scalar α]

/-- The part of the glide that is over at a time, unless it is all of it. -/
def fraction? (g : Glide α) (now : Nat) : Option α :=
  glideFraction? g.durationMs (now - g.started)

/-- What the glide makes of its sprite at a time. -/
def draw (g : Glide α) (now : Nat) (sprite : Sprite α) : Sprite α :=
  match g.fraction? now with
  | some t => { sprite with position := g.origin.towards g.target t }
  | none => { sprite with animation := none, position := g.target }

/-- What the chain has still to do once the glide was drawn at a time. -/
def next (g : Glide α) (now : Nat) : Work α :=
  if (g.fraction? now).isSome then g.work else .chain ⟨g.rest, .dispatch⟩

/-- How long the chain sleeps once the glide was drawn at a time. -/
def pause (g : Glide α) (stage : Stage α) (now : Nat) : Nat :=
  if (g.fraction? now).isSome then stage.config.frameIntervalMs else ChainRun.pauseBefore stage g.rest

variable {g : Glide α} {now : Nat}

/-- A frame puts the sprite on the way to the target and leaves everything else of it alone. -/
theorem draw_of_some {part : α} (hpart : g.fraction? now = some part) :
    g.draw now = fun sprite => { sprite with position := g.origin.towards g.target part } := by
  funext sprite
  rw [draw, hpart]

/-- While its duration lasts a glide goes on. -/
theorem next_of_some {part : α} (hpart : g.fraction? now = some part) : g.next now = g.work := by
  rw [next, hpart]
  rfl

/-- While its duration lasts a glide pauses for one frame. -/
theorem pause_of_some {part : α} (hpart : g.fraction? now = some part) (stage : Stage α) :
    g.pause stage now = stage.config.frameIntervalMs := by
  rw [pause, hpart]
  rfl

/-- The end of a glide puts the sprite on the target and takes the mark of the glide off it. -/
theorem draw_of_none (hover : g.fraction? now = none) :
    g.draw now = fun sprite => { sprite with animation := none, position := g.target } := by
  funext sprite
  rw [draw, hover]

/-- A frame of a glide leaves the sprite who it is. -/
@[simp] theorem id_draw (g : Glide α) (now : Nat) (sprite : Sprite α) : (g.draw now sprite).id = sprite.id := by
  unfold draw
  split <;> rfl

@[simp] theorem speech_draw (g : Glide α) (now : Nat) (sprite : Sprite α) :
    (g.draw now sprite).speech = sprite.speech := by
  unfold draw
  split <;> rfl

@[simp] theorem program_draw (g : Glide α) (now : Nat) (sprite : Sprite α) :
    (g.draw now sprite).program = sprite.program := by
  unfold draw
  split <;> rfl

/-- Once its duration is over a glide leaves its chain before the next block. -/
theorem next_of_none (hover : g.fraction? now = none) : g.next now = .chain ⟨g.rest, .dispatch⟩ := by
  rw [next, hover]
  rfl

/-- Once its duration is over the chain pauses as it does behind any other block. -/
theorem pause_of_none (hover : g.fraction? now = none) (stage : Stage α) :
    g.pause stage now = ChainRun.pauseBefore stage g.rest := by
  rw [pause, hover]
  rfl

end Glide

namespace Task

/-- The chain has come to its end, and only its sign-off is left. -/
def IsEnding (t : Task α) : Prop :=
  ∃ cursor how, t.work = .chain ⟨cursor, .signOff how⟩

/-- A task is not woken before the end of a pause. -/
theorem le_wake_resume (work : Work α) (pause now stamp : Nat) (t : Task α) :
    now + pause ≤ max now (t.resume work pause now stamp).wake := by
  unfold resume
  split
  case isTrue hnone => exact hnone ▸ Nat.le_max_left now t.wake
  case isFalse => exact Nat.le_max_right now (now + pause)

variable [Scalar α] {stage : Stage α} {t : Task α}

/-- A turn of a chain in a glide draws one frame, or lands, and does nothing else. -/
theorem step_of_gliding {g : Glide α} (hwork : t.work = g.work)
    (hlive : stage.registry.isCancelled t.token = false)
    (hknown : stage.store.contains t.sprite = true) (now : Nat) : t.step now stage =
      ⟨stage.commit t.sprite (g.draw now), some (g.next now, g.pause stage now), none⟩ := by
  have hnot : ¬ stage.registry.isCancelled t.token = true := by simp [hlive]
  rw [step, if_neg hnot, hwork]
  simp only [Glide.work, ChainRun.step, ChainRun.stepGlide, hknown, if_true, ChainRun.goOn]
  cases hfraction : g.fraction? now with
  | some part =>
    have hpart : glideFraction? g.durationMs (now - g.started) = some part := hfraction
    simp only [hpart, Glide.draw_of_some hfraction, Glide.next_of_some hfraction,
      Glide.pause_of_some hfraction, Glide.work]
  | none =>
    have hover : (glideFraction? g.durationMs (now - g.started) : Option α) = none := hfraction
    simp only [hover, Glide.draw_of_none hfraction, Glide.next_of_none hfraction,
      Glide.pause_of_none hfraction]

omit [Scalar α] in
/-- A chain that is due or ending is in no glide. -/
theorem isGliding_of_idle (hidle : (∃ cursor, t.work = .chain ⟨cursor, .dispatch⟩) ∨ t.IsEnding) :
    t.work.isGliding = false := by
  rcases hidle with ⟨cursor, hwork⟩ | ⟨cursor, how, hwork⟩ <;> rw [hwork] <;> rfl

/-- A chain that is in no glide and does not act can only come to its end. -/
theorem step_of_quiet (hidle : (∃ cursor, t.work = .chain ⟨cursor, .dispatch⟩) ∨ t.IsEnding)
    (hknown : stage.registry.isCancelled t.token = false → stage.store.contains t.sprite = true)
    (hquiet : t.act? stage = none) (now : Nat) : (t.step now stage).stage = stage ∧
      ∀ work pause, (t.step now stage).next = some (work, pause) →
        ∃ cursor how, work = .chain ⟨cursor, .signOff how⟩ := by
  cases hlive : stage.registry.isCancelled t.token with
  | true =>
    rw [step_of_cancelled hlive]
    exact ⟨rfl, fun _ _ hnext => by cases hnext⟩
  | false =>
    rcases hidle with ⟨cursor, hwork⟩ | ⟨cursor, how, hwork⟩
    · have hturn : ∀ b next, cursor.advance stage.config.maxSteps ≠ .due b next := by
        intro b next hdue
        simp [act?, hlive, hwork, hdue, hknown hlive] at hquiet
      obtain ⟨how, hend⟩ := ChainRun.stepDispatch_of_not_due (α := α) hturn
      have hnot : ¬ stage.registry.isCancelled t.token = true := by simp [hlive]
      have hstep : t.step now stage = ⟨stage, some (.chain ⟨cursor, .signOff how⟩, 0), none⟩ := by
        rw [step, if_neg hnot, hwork]
        exact hend stage now t.sprite rfl
      rw [hstep]
      refine ⟨rfl, fun work pause hnext => ?_⟩
      cases hnext
      exact ⟨cursor, how, rfl⟩
    · simp [act?, hlive, hwork] at hquiet

end Task

namespace Session

/-- The task with an id is about to write to the stage for a glide. -/
def isGlideTurn (n : Nat) (event : Event α) (s : Session α) : Bool :=
  event.isStepOf n && (s.task? n).any fun t => t.work.isGliding && !s.stage.registry.isCancelled t.token

/-- A chain glides at its own steps only. -/
theorem isGlideTurn_of_ne {n : Nat} {event : Event α} (hother : event ≠ .step n) (s : Session α) :
    s.isGlideTurn n event = false := by
  have hstep : ¬ event.isStepOf n = true := fun hstep => hother (Event.isStepOf_iff.1 hstep)
  rw [isGlideTurn, Bool.eq_false_iff.2 hstep, Bool.false_and]

/-- The task with an id waits for its next block as the given one does, or it came to the end of its
    chain or was cancelled in the meantime. -/
structure Waits (n : Nat) (t : Task α) (s : Session α) : Prop where
  lt : n < s.nextTask
  now : ∀ now, s.task? n = some now → now = t ∨ now.IsEnding

/-- A task that was just found is waiting as it is. -/
theorem Consistent.waits {s : Session α} (h : s.Consistent) {n : Nat} {t : Task α}
    (ht : s.task? n = some t) : s.Waits n t := by
  obtain ⟨hmem, hid⟩ := mem_of_task? ht
  refine ⟨hid ▸ h.accounts.id_lt t hmem, ?_⟩
  intro now hnow
  rw [ht, Option.some.injEq] at hnow
  exact Or.inl hnow.symm

variable [Scalar α]

/-- The sessions in which the task with an id writes to the stage for a glide, in the course of a list
    of events. -/
def glideTurns (n : Nat) : List (Event α) → Session α → List (Session α)
  | [], _ => []
  | event :: events, s =>
    (if s.isGlideTurn n event then [s] else []) ++ glideTurns n events (s.handle event)

/-- The sessions in which a glide is drawn are those before a step of its task, which is live then. -/
theorem of_mem_glideTurns {s u : Session α} {n : Nat} {events : List (Event α)}
    (hu : u ∈ s.glideTurns n events) :
    (∃ before after, events = before ++ .step n :: after ∧ u = s.play before) ∧
      ∃ t, u.task? n = some t ∧ u.stage.registry.isCancelled t.token = false := by
  induction events generalizing s with
  | nil => cases hu
  | cons event rest ih =>
    rcases List.mem_append.1 hu with hhere | hlater
    · split at hhere
      case isTrue hturn =>
        rw [List.mem_singleton.1 hhere]
        simp only [isGlideTurn, Bool.and_eq_true, Option.any_eq_true, Bool.not_eq_true'] at hturn
        obtain ⟨hstep, t, ht, -, hlive⟩ := hturn
        exact ⟨⟨[], rest, by rw [Event.isStepOf_iff.1 hstep]; rfl, rfl⟩, t, ht, hlive⟩
      case isFalse => cases hhere
    · obtain ⟨⟨before, after, rfl, rfl⟩, hlive⟩ := ih hlater
      exact ⟨⟨event :: before, after, rfl, rfl⟩, hlive⟩

/-- The event of a step runs the task of that id. -/
theorem handle_step_of_task? {s : Session α} {n : Nat} {t : Task α} (ht : s.task? n = some t) :
    s.handle (.step n) = s.runTask t := by
  simp only [handle, ht]

/-- What becomes of a task at its own step. -/
theorem task?_handle_step {s : Session α} (h : s.Consistent) {n : Nat} {t : Task α}
    (ht : s.task? n = some t) : (s.handle (.step n)).task? n =
      (t.step s.now s.stage).next.map fun (work, pause) => t.resume work pause s.now s.nextStamp := by
  obtain ⟨hmem, rfl⟩ := mem_of_task? ht
  rw [handle_step_of_task? ht, task?_runTask ht (h.accounts.id_lt t hmem), if_pos rfl]

/-- A chain that waits leaves the stage alone until it acts. -/
theorem Waits.handle {s : Session α} (h : s.Consistent) {n : Nat} {t : Task α} {cursor : Cursor}
    (hwork : t.work = .chain ⟨cursor, .dispatch⟩) (hwaits : s.Waits n t) {event : Event α}
    (hquiet : s.act? n event = none) : (s.handle event).Waits n t ∧
      s.isGlideTurn n event = false ∧ (event = .step n → (s.handle event).stage = s.stage) := by
  have hlt := Nat.lt_of_lt_of_le hwaits.lt (h.precedes_handle event).nextTask_le
  by_cases hother : event ≠ .step n
  · refine ⟨⟨hlt, ?_⟩, isGlideTurn_of_ne hother s, fun hstep => absurd hstep hother⟩
    rw [task?_handle hwaits.lt hother]
    exact hwaits.now
  · rw [not_not] at hother
    subst hother
    cases ht : s.task? n with
    | none =>
      have hstep : s.handle (.step n) = s := by simp only [Session.handle, ht]
      rw [hstep]
      refine ⟨hwaits, ?_, fun _ => rfl⟩
      simp [isGlideTurn, ht]
    | some now =>
      have hact : now.act? s.stage = none := by simpa [act?, ht] using hquiet
      have hidle : (∃ cursor, now.work = .chain ⟨cursor, .dispatch⟩) ∨ now.IsEnding :=
        (hwaits.now now ht).imp_left fun hsame => ⟨cursor, (congrArg Task.work hsame).trans hwork⟩
      obtain ⟨hstage, hends⟩ :=
        Task.step_of_quiet hidle (h.contains_of_live (mem_of_task? ht).1) hact s.now
      refine ⟨⟨hlt, ?_⟩, ?_, fun _ => ?_⟩
      · intro later hlater
        rw [task?_handle_step h ht] at hlater
        obtain ⟨⟨work, pause⟩, hnext, rfl⟩ := Option.map_eq_some_iff.1 hlater
        obtain ⟨place, how, hending⟩ := hends work pause hnext
        exact Or.inr ⟨place, how, (now.work_resume ..).trans hending⟩
      · simp [isGlideTurn, ht, Task.isGliding_of_idle hidle]
      · rw [handle_step_of_task? ht, stage_runTask, hstage]

/-- A chain that is due still waits after a run in which it does not act, and has drawn no frame in
    it. -/
theorem Waits.play {s : Session α} (h : s.Consistent) {n : Nat} {t : Task α} {cursor : Cursor}
    (hwork : t.work = .chain ⟨cursor, .dispatch⟩) (hwaits : s.Waits n t) {events : List (Event α)}
    (hquiet : s.acts n events = []) : (s.play events).Waits n t ∧ s.glideTurns n events = [] := by
  induction events generalizing s with
  | nil => exact ⟨hwaits, rfl⟩
  | cons event rest ih =>
    obtain ⟨hact, hrest⟩ := acts_cons_eq_nil.1 hquiet
    obtain ⟨hnext, hturn, _⟩ := hwaits.handle h hwork hact
    obtain ⟨hend, hturns⟩ := ih (h.handle event) hnext hrest
    refine ⟨hend, ?_⟩
    rw [glideTurns, hturn, hturns]
    rfl

/-- A task that is gone is in no glide. -/
theorem glideTurns_of_task?_eq_none {s : Session α} (h : s.Consistent) {n : Nat} (hn : n < s.nextTask)
    (hgone : s.task? n = none) (events : List (Event α)) : s.glideTurns n events = [] := by
  induction events generalizing s with
  | nil => rfl
  | cons event rest ih =>
    have hprecedes := h.precedes_handle event
    have hturn : s.isGlideTurn n event = false := by simp [isGlideTurn, hgone]
    rw [glideTurns, hturn, ih (h.handle event) (Nat.lt_of_lt_of_le hn hprecedes.nextTask_le)
      (hprecedes.task?_eq_none hn hgone)]
    rfl

/-- A dispatch carries the block out, and the chain goes on behind it as the block asks for. -/
theorem handle_of_dispatch {s : Session α} (h : s.Consistent) {n : Nat} {t : Task α}
    (ht : s.task? n = some t) {b : Block} (hact : t.act? s.stage = some (.dispatch b)) :
    let result := s.stage.execute t.sprite b
    (s.handle (.step n)).stage = result.1 ∧ ∃ rest : Cursor, (s.handle (.step n)).task? n =
      some (t.resume (.chain ⟨rest, result.2.phase s.now⟩)
        (result.2.pause (ChainRun.pauseBefore s.stage rest)) s.now s.nextStamp) := by
  intro result
  obtain ⟨hlive, _, cursor, behind, hwork, hturn⟩ := Task.dispatch_of_act? hact
  have hnot : ¬ s.stage.registry.isCancelled t.token = true := by simp [hlive]
  let rest := result.2.cursor s.stage.config.maxSteps cursor.previous behind
  have hstep : t.step s.now s.stage = ⟨result.1, some (.chain ⟨rest, result.2.phase s.now⟩,
      result.2.pause (ChainRun.pauseBefore s.stage rest)), result.2.delay?⟩ := by
    rw [Task.step, if_neg hnot, hwork]
    exact ChainRun.stepDispatch_of_due hturn s.now t.sprite
  have hafter := task?_handle_step h ht
  rw [hstep] at hafter
  refine ⟨?_, rest, hafter⟩
  rw [handle_step_of_task? ht, stage_runTask, hstep]

/-- Once a chain is cancelled or its sprite is deleted, it does nothing more and leaves the stage alone. -/
theorem stopped_later {s : Session α} (hs : s.Reachable) {n : Nat} {t : Task α} (ht : s.task? n = some t)
    {before : List (Event α)} (hstopped : (s.play before).stage.registry.isCancelled t.token = true ∨
      (s.play before).stage.store.contains t.sprite = false) (later : List (Event α)) :
    let stopped := s.play before
    stopped.acts n later = [] ∧
      ((stopped.play later).handle (.step n)).stage = (stopped.play later).stage := by
  intro stopped
  obtain ⟨hmem, hid⟩ := mem_of_task? ht
  have hlt : n < s.nextTask := hid ▸ hs.consistent.accounts.id_lt t hmem
  have hprecedes := hs.consistent.precedes_play before
  have hlt' := Nat.lt_of_lt_of_le hlt hprecedes.nextTask_le
  have h : stopped.Consistent := (hs.play before).consistent
  have hlater := h.precedes_play later
  cases hfound : stopped.task? n with
  | none =>
    have hgone := hlater.task?_eq_none hlt' hfound
    exact ⟨acts_of_task?_eq_none h hlt' hfound later, by simp only [handle, hgone]⟩
  | some now =>
    obtain ⟨hnow, _⟩ := mem_of_task? hfound
    obtain ⟨hsprite, htoken, _⟩ := hprecedes.of_task?_eq_some hlt ht hfound
    have hcancelled : stopped.stage.registry.isCancelled now.token = true := by
      rw [htoken, hsprite] at hstopped
      rcases hstopped with hcancelled | hdeleted
      · exact hcancelled
      · by_contra hlive
        rw [h.contains_of_live hnow (Bool.not_eq_true _ ▸ hlive)] at hdeleted
        cases hdeleted
    refine ⟨acts_of_cancelled h hfound hcancelled later, ?_⟩
    cases hlast : (stopped.play later).task? n with
    | none => simp only [handle, hlast]
    | some last =>
      obtain ⟨_, htoken', _⟩ := hlater.of_task?_eq_some hlt' hfound hlast
      have hstill := hlater.grows.cancelled (h.accounts.registered now hnow).serial_lt hcancelled
      rw [handle_step_of_task? hlast]
      exact stage_runTask_of_cancelled (htoken' ▸ hstill)

/-- At a turn for a glide the sprite of the glide is there. -/
theorem get?_of_mem_glideTurns {s : Session α} (hs : s.Reachable) {n : Nat} {t : Task α}
    (ht : s.task? n = some t) {events : List (Event α)} {u : Session α}
    (hu : u ∈ s.glideTurns n events) :
    u.Reachable ∧ ∃ sprite, u.stage.store.get? t.sprite = some sprite := by
  obtain ⟨⟨before, _, _, rfl⟩, now, hnow, hlive⟩ := of_mem_glideTurns hu
  obtain ⟨hmem, hid⟩ := mem_of_task? ht
  have hplayed := hs.play before
  have hlt : n < s.nextTask := hid ▸ hs.consistent.accounts.id_lt t hmem
  obtain ⟨hsprite, _⟩ := (hs.consistent.precedes_play before).of_task?_eq_some hlt ht hnow
  refine ⟨hplayed, (Store.contains_iff_get? _ _).1 ?_⟩
  rw [hsprite]
  exact hplayed.consistent.contains_of_live (mem_of_task? hnow).1 hlive

/-- A turn of a glide draws it. -/
theorem handle_of_gliding {s : Session α} (h : s.Consistent) {n : Nat} {t : Task α}
    (ht : s.task? n = some t) {g : Glide α} (hwork : t.work = g.work)
    (hlive : s.stage.registry.isCancelled t.token = false) :
    (s.handle (.step n)).stage = s.stage.commit t.sprite (g.draw s.now) ∧
      (s.handle (.step n)).task? n =
        some (t.resume (g.next s.now) (g.pause s.stage s.now) s.now s.nextStamp) := by
  have hstep := Task.step_of_gliding hwork hlive (h.contains_of_live (mem_of_task? ht).1 hlive) s.now
  have hafter := task?_handle_step h ht
  rw [hstep] at hafter
  refine ⟨?_, hafter⟩
  rw [handle_step_of_task? ht, stage_runTask, hstep]

end Session

variable [Scalar α]

/-- The course of a glide over a list of events in which its chain does not act: the sessions in which
    the chain draws a frame, and the one in which it ends the glide if it comes to that. -/
structure Glide.Course (g : Glide α) (n : Nat) (t : Task α) (s : Session α) (events : List (Event α))
    (frames : List (Session α)) (landing : Option (Session α)) : Prop where
  turns : s.glideTurns n events = frames ++ landing.toList
  early : ∀ u ∈ frames, (g.fraction? u.now).isSome = true
  atEnd : ∀ u ∈ landing, g.fraction? u.now = none
  write : ∀ u ∈ frames ++ landing.toList,
    (u.handle (.step n)).stage = u.stage.commit t.sprite (g.draw u.now)
  apart : (frames ++ landing.toList).Pairwise fun u later =>
    u.now + s.stage.config.frameIntervalMs ≤ later.now
  le_now : ∀ u ∈ frames ++ landing.toList, max s.now t.wake ≤ u.now
  /-- A glide that has not ended is under way, with a frame at each turn, unless it was cancelled. -/
  underWay : landing = none → (s.play events).stage.registry.isCancelled t.token = true ∨
    frames.length = events.countP (·.isStepOf n) ∧
      ∃ now, (s.play events).task? n = some now ∧ now.sprite = t.sprite ∧ now.work = g.work
  /-- Once it has ended, the chain keeps to the pause before its next block. -/
  landed : ∀ u ∈ landing, ∃ next : Task α, next.work = .chain ⟨g.rest, .dispatch⟩ ∧
    u.now + ChainRun.pauseBefore u.stage g.rest ≤ max u.now next.wake ∧ (s.play events).Waits n next

namespace Glide.Course

variable {g : Glide α} {n : Nat} {t : Task α} {s : Session α} {events : List (Event α)}
  {frames : List (Session α)} {landing : Option (Session α)}

/-- A glide that has made no turn yet. -/
theorem of_no_turns (hturns : s.glideTurns n events = [])
    (hunderWay : (s.play events).stage.registry.isCancelled t.token = true ∨
      0 = events.countP (·.isStepOf n) ∧
        ∃ now, (s.play events).task? n = some now ∧ now.sprite = t.sprite ∧ now.work = g.work) :
    g.Course n t s events [] none where
  turns := hturns
  early := List.forall_mem_nil _
  atEnd _ hu := absurd hu (Option.not_mem_none _)
  write := List.forall_mem_nil _
  apart := .nil
  le_now := List.forall_mem_nil _
  underWay _ := hunderWay
  landed _ hu := absurd hu (Option.not_mem_none _)

/-- Before the first turn of a glide its course is empty. -/
theorem nil (ht : s.task? n = some t) (hwork : t.work = g.work) : g.Course n t s [] [] none :=
  of_no_turns rfl (Or.inr ⟨rfl, t, ht, rfl, hwork⟩)

/-- Nothing else touches a glide. -/
theorem cons_of_ne (h : s.Consistent) {event : Event α} (hother : event ≠ .step n)
    (hcourse : g.Course n t (s.handle event) events frames landing) :
    g.Course n t s (event :: events) frames landing := by
  have hstep : ¬ event.isStepOf n = true := fun hstep => hother (Event.isStepOf_iff.1 hstep)
  refine ⟨?_, hcourse.early, hcourse.atEnd, hcourse.write, ?_, ?_, ?_, hcourse.landed⟩
  · rw [Session.glideTurns, Session.isGlideTurn_of_ne hother, hcourse.turns]
    rfl
  · exact (h.precedes_handle event).config ▸ hcourse.apart
  · intro u hu
    have hle := hcourse.le_now u hu
    have hnow := Session.now_le_handle event s
    omega
  · rw [List.countP_cons_of_neg hstep]
    exact hcourse.underWay

/-- A cancelled glide makes no turn. -/
theorem of_cancelled (h : s.Consistent) (ht : s.task? n = some t)
    (hcancelled : s.stage.registry.isCancelled t.token = true) :
    g.Course n t s (.step n :: events) [] none := by
  obtain ⟨hmem, rfl⟩ := Session.mem_of_task? ht
  have hgone := Session.task?_handle_step h ht
  rw [Task.step_of_cancelled hcancelled] at hgone
  have hlt := Nat.lt_of_lt_of_le (h.accounts.id_lt t hmem) (h.precedes_handle (.step t.id)).nextTask_le
  have hgrows := (h.precedes_play (.step t.id :: events)).grows
  refine of_no_turns ?_ (Or.inl (hgrows.cancelled (h.accounts.registered t hmem).serial_lt hcancelled))
  rw [Session.glideTurns, Session.glideTurns_of_task?_eq_none (h.handle _) hlt hgone]
  simp [Session.isGlideTurn, ht, hcancelled]

variable (h : s.Consistent) (ht : s.task? n = some t) (hwork : t.work = g.work)
  (hlive : s.stage.registry.isCancelled t.token = false) (hwake : t.wake ≤ s.now)

omit [Scalar α] in
include ht hwork hlive in
/-- The step of a chain that is in a glide is one of its turns. -/
private theorem isGlideTurn : s.isGlideTurn n (.step n) = true := by
  simp [Session.isGlideTurn, Event.isStepOf, ht, hlive, hwork, Glide.work, Work.isGliding]

include h ht hwork hlive hwake in
/-- While the glide is not over, a turn draws a frame, and the next turn comes a frame interval later. -/
theorem cons_frame {part : α} (hpart : g.fraction? s.now = some part)
    (hinterval : 0 < s.stage.config.frameIntervalMs)
    (hrest : g.Course n (t.resume g.work s.stage.config.frameIntervalMs s.now s.nextStamp)
      (s.handle (.step n)) events frames landing) :
    g.Course n t s (.step n :: events) (s :: frames) landing := by
  have hwrite := (Session.handle_of_gliding h ht hwork hlive).1
  have hlater : ∀ u ∈ frames ++ landing.toList, s.now + s.stage.config.frameIntervalMs ≤ u.now := by
    intro u hu
    have hle := hrest.le_now u hu
    rw [Task.resume, if_neg (by omega)] at hle
    exact (Nat.max_le.1 hle).2
  refine ⟨?_, ?_, hrest.atEnd, ?_, ?_, ?_, ?_, hrest.landed⟩
  · rw [Session.glideTurns, isGlideTurn ht hwork hlive, hrest.turns]
    rfl
  · intro u hu
    rcases List.mem_cons.1 hu with rfl | hu
    · rw [hpart]
      rfl
    · exact hrest.early u hu
  · intro u hu
    rcases List.mem_cons.1 hu with rfl | hu
    · exact hwrite
    · have hdrawn := hrest.write u hu
      rwa [Task.sprite_resume] at hdrawn
  · refine .cons hlater ?_
    exact (h.precedes_handle (.step n)).config ▸ hrest.apart
  · intro u hu
    rcases List.mem_cons.1 hu with rfl | hu
    · exact Nat.max_le.2 ⟨Nat.le_refl _, hwake⟩
    · have hle := hlater u hu
      omega
  · intro hnone
    have hcount : (Event.step n :: events).countP (·.isStepOf n) = events.countP (·.isStepOf n) + 1 :=
      List.countP_cons_of_pos (by simp [Event.isStepOf])
    rcases hrest.underWay hnone with hcancelled | ⟨hlength, now, hnow, hsprite, hstill⟩
    · rw [Task.token_resume] at hcancelled
      exact Or.inl hcancelled
    · rw [Task.sprite_resume] at hsprite
      exact Or.inr ⟨by rw [List.length_cons, hlength, hcount], now, hnow, hsprite, hstill⟩

include h ht hwork hlive hwake in
/-- Once the glide is over, a turn ends it, and the chain waits before it goes on. -/
theorem cons_landing (hover : g.fraction? s.now = none)
    (hquiet : (s.handle (.step n)).acts n events = []) :
    g.Course n t s (.step n :: events) [] (some s) := by
  obtain ⟨hwrite, hafter⟩ := Session.handle_of_gliding h ht hwork hlive
  rw [Glide.next_of_none hover, Glide.pause_of_none hover] at hafter
  obtain ⟨hend, hturns⟩ := ((h.handle _).waits hafter).play (h.handle _) (t.work_resume ..) hquiet
  have honly : ∀ u ∈ [] ++ (some s).toList, u = s := fun u hu => List.mem_singleton.1 hu
  refine ⟨?_, List.forall_mem_nil _, ?_, ?_, List.pairwise_singleton _ _, ?_, ?_, ?_⟩
  · rw [Session.glideTurns, isGlideTurn ht hwork hlive, hturns]
    rfl
  · rintro u ⟨⟩
    exact hover
  · intro u hu
    rw [honly u hu]
    exact hwrite
  · intro u hu
    rw [honly u hu]
    exact Nat.max_le.2 ⟨Nat.le_refl _, hwake⟩
  · exact fun hnone => absurd hnone (Option.some_ne_none s)
  · rintro u ⟨⟩
    exact ⟨_, t.work_resume .., Task.le_wake_resume .., hend⟩

/-- The chain does not act before it has ended its glide. -/
theorem act?_of_underWay (hs : s.Reachable) (ht : s.task? n = some t)
    (hcourse : g.Course n t s events frames landing) (hnone : landing = none) :
    (s.play events).act? n (.step n) = none := by
  rcases hcourse.underWay hnone with hcancelled | ⟨-, now, hnow, -, hwork⟩
  · have hstopped := (Session.stopped_later hs ht (Or.inl hcancelled) [.step n]).1
    exact (Session.acts_cons_eq_nil.1 hstopped).1
  · rw [Session.act?, if_pos rfl, hnow, Option.bind_some, Task.act?, hwork]
    exact ite_self none

end Glide.Course

/-- A glide runs its course, whatever else happens. -/
theorem Session.course_of_glide {s : Session α} (h : s.Consistent) {n : Nat} {t : Task α}
    (ht : s.task? n = some t) {g : Glide α} (hwork : t.work = g.work)
    (hinterval : 0 < s.stage.config.frameIntervalMs) {events : List (Event α)}
    (hontime : s.OnTime n events) (hquiet : s.acts n events = []) :
    ∃ frames landing, g.Course n t s events frames landing := by
  -- The task may be another after each frame, since it wakes later, but its glide stays the same.
  induction events generalizing s t with
  | nil => exact ⟨[], none, .nil ht hwork⟩
  | cons event rest ih =>
    obtain ⟨hdue, hrest⟩ := hontime
    obtain ⟨_, hrestQuiet⟩ := acts_cons_eq_nil.1 hquiet
    have hstill : 0 < (s.handle event).stage.config.frameIntervalMs := by
      rwa [(h.precedes_handle event).config]
    by_cases hother : event ≠ .step n
    · obtain ⟨hmem, hid⟩ := mem_of_task? ht
      have hsame := (task?_handle (hid ▸ h.accounts.id_lt t hmem) hother).trans ht
      obtain ⟨frames, landing, hcourse⟩ := ih (h.handle event) hsame hwork hstill hrest hrestQuiet
      exact ⟨frames, landing, hcourse.cons_of_ne h hother⟩
    · rw [not_not] at hother
      subst hother
      cases hlive : s.stage.registry.isCancelled t.token with
      | true => exact ⟨[], none, .of_cancelled h ht hlive⟩
      | false =>
        have hwake : t.wake ≤ s.now := due_of_live hlive ▸ hdue rfl t ht
        cases hpart : g.fraction? s.now with
        | none => exact ⟨[], some s, .cons_landing h ht hwork hlive hwake hpart hrestQuiet⟩
        | some part =>
          obtain ⟨_, hafter⟩ := handle_of_gliding h ht hwork hlive
          rw [Glide.next_of_some hpart, Glide.pause_of_some hpart] at hafter
          obtain ⟨frames, landing, hcourse⟩ :=
            ih (h.handle _) hafter (t.work_resume ..) hstill hrest hrestQuiet
          exact ⟨s :: frames, landing, .cons_frame h ht hwork hlive hwake hpart hinterval hcourse⟩

end SpriteStage
