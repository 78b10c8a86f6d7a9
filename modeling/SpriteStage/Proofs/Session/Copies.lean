import SpriteStage.Proofs.Cursor.Copies
import SpriteStage.Proofs.Session.CleanRuns

namespace SpriteStage

variable {α : Type}

namespace Task

/-- The copies that the next step of the task makes on a stage. -/
def copies (stage : Stage α) (t : Task α) : List Block :=
  match t.act? stage, t.work with
  | some (.dispatch b), .chain run => run.cursor.copiesAt stage.config.maxSteps b
  | _, _ => []

/-- The task is a chain that has come to this place. -/
def IsAt (c : Cursor) (t : Task α) : Prop :=
  ∃ phase, t.work = .chain ⟨c, phase⟩

variable [Scalar α]

/-- A step of a chain takes it on by one block or leaves it where it is. -/
theorem isAt_step {stage : Stage α} {t : Task α} {c : Cursor} (hat : t.IsAt c)
    (hknown : stage.registry.isCancelled t.token = false → stage.store.contains t.sprite = true)
    (now : Nat) :
    let limit := stage.config.maxSteps
    ∃ k, ((t.act? stage).bind Act.block?).toList = (c.walk limit k).1 ∧ t.copies stage = c.made limit k ∧
      ∀ work pause, (t.step now stage).next = some (work, pause) →
        ∃ phase, work = .chain ⟨(c.walk limit k).2, phase⟩ := by
  intro limit
  obtain ⟨phase, hwork⟩ := hat
  cases hcancelled : stage.registry.isCancelled t.token with
  | true => exact ⟨0, by simp [act?, copies, step, hcancelled, Cursor.walk, Cursor.made]⟩
  | false =>
    have hthere := hknown hcancelled
    cases phase with
    | signOff how =>
      refine ⟨0, ?_⟩
      simp [act?, copies, step, ChainRun.step, hcancelled, hwork, Act.block?, Cursor.walk, Cursor.made]
    | glide origin target durationMs started =>
      refine ⟨0, by simp [act?, hcancelled, hwork, Cursor.walk], by
        simp [act?, copies, hcancelled, hwork, Cursor.made], ?_⟩
      intro work pause hnext
      simp only [step, hcancelled, hwork, ChainRun.step, ChainRun.stepGlide, hthere, Bool.false_eq_true,
        if_false, if_true] at hnext
      split at hnext <;> cases hnext <;> exact ⟨_, rfl⟩
    | dispatch =>
      simp only [act?, copies, step, hcancelled, hwork, ChainRun.step, hthere, Bool.false_eq_true,
        if_false, if_true]
      cases hturn : c.advance limit with
      | finished | runaway =>
        refine ⟨0, by simp [Cursor.walk], by simp [Cursor.made], ?_⟩
        intro work pause hnext
        simp only [ChainRun.stepDispatch, show c.advance stage.config.maxSteps = _ from hturn] at hnext
        cases hnext
        exact ⟨_, rfl⟩
      | due b behind =>
        obtain ⟨hwalk, hmade⟩ := Cursor.walk_one hturn
        refine ⟨1, by simp [hwalk, Act.block?], by simp [hmade, limit], ?_⟩
        intro work pause hnext
        rw [hwalk]
        rw [ChainRun.stepDispatch_of_known hturn hthere] at hnext
        cases hnext
        exact ⟨_, rfl⟩

end Task

namespace Session

/-- The copies that the task with an id makes at an event. -/
def copiesAt (n : Nat) (event : Event α) (s : Session α) : List Block :=
  match event with
  | .step id => if id = n then (s.task? n).elim [] (·.copies s.stage) else []
  | _ => []

variable [Scalar α]

/-- The blocks that the task with an id dispatches in the course of a list of events. -/
def dispatched (n : Nat) (events : List (Event α)) (s : Session α) : List Block :=
  (s.acts n events).filterMap Act.block?

/-- The blocks that a chain dispatches in a run are those of its first event and then those of the
    others. -/
theorem dispatched_cons (n : Nat) (event : Event α) (events : List (Event α)) (s : Session α) :
    s.dispatched n (event :: events) =
      ((s.act? n event).bind Act.block?).toList ++ dispatched n events (s.handle event) := by
  unfold dispatched
  rw [acts, List.filterMap_append]
  rcases s.act? n event with _ | act
  · rfl
  · cases act <;> rfl

/-- The copies that it makes in the course of them. -/
def copies (n : Nat) : List (Event α) → Session α → List Block
  | [], _ => []
  | event :: events, s => s.copiesAt n event ++ copies n events (s.handle event)

/-- An event takes a chain on by one block at most. -/
theorem isAt_handle {s : Session α} (h : s.Consistent) {n : Nat} (hn : n < s.nextTask) {c : Cursor}
    (hat : ∀ t, s.task? n = some t → t.IsAt c) (event : Event α) :
    let limit := s.stage.config.maxSteps
    ∃ k, ((s.act? n event).bind Act.block?).toList = (c.walk limit k).1 ∧
      s.copiesAt n event = c.made limit k ∧
      ∀ t, (s.handle event).task? n = some t → t.IsAt (c.walk limit k).2 := by
  intro limit
  by_cases hother : event ≠ .step n
  case pos =>
    have hcopies : s.copiesAt n event = [] := by
      cases event with
      | step id =>
        have hne : id ≠ n := fun hid => hother (congrArg Event.step hid)
        simp [copiesAt, hne]
      | control | pass => rfl
    rw [act?_of_ne hother, hcopies, task?_handle hn hother]
    exact ⟨0, by simp [Cursor.walk], by simp [Cursor.made], hat⟩
  case neg =>
    rw [not_not] at hother
    subst hother
    cases hfound : s.task? n with
    | none =>
      refine ⟨0, by simp [act?, hfound, Cursor.walk], by simp [copiesAt, hfound, Cursor.made], ?_⟩
      intro t ht
      rw [handle, hfound] at ht
      exact hat t ht
    | some t =>
      obtain ⟨hmem, rfl⟩ := mem_of_task? hfound
      obtain ⟨k, hblock, hcopies, hnext⟩ :=
        Task.isAt_step (hat t hfound) (h.contains_of_live hmem) s.now
      refine ⟨k, by simpa [act?, hfound] using hblock, by simpa [copiesAt, hfound] using hcopies, ?_⟩
      intro later hlater
      simp only [handle, hfound] at hlater
      rw [task?_runTask hfound hn, if_pos rfl, Option.map_eq_some_iff] at hlater
      obtain ⟨⟨work, pause⟩, hleft, rfl⟩ := hlater
      obtain ⟨phase, rfl⟩ := hnext work pause hleft
      exact ⟨phase, Task.work_resume ..⟩

/-- A chain in the course of events has dispatched the first blocks of its walk and made the copies that
    the walk makes on the way. If it is still under way, it has come as far as the walk. -/
theorem isAt_play {s : Session α} (h : s.Consistent) {n : Nat} (hn : n < s.nextTask) {c : Cursor}
    (hat : ∀ t, s.task? n = some t → t.IsAt c) (events : List (Event α)) :
    let limit := s.stage.config.maxSteps
    ∃ k, s.dispatched n events = (c.walk limit k).1 ∧ s.copies n events = c.made limit k ∧
      ∀ t, (s.play events).task? n = some t → t.IsAt (c.walk limit k).2 := by
  induction events generalizing s c with
  | nil => exact ⟨0, rfl, rfl, hat⟩
  | cons event rest ih =>
    intro limit
    have hprecedes := h.precedes_handle event
    obtain ⟨j, hblock, hcopies, hnext⟩ := isAt_handle h hn hat event
    obtain ⟨k, hblocks, hmade, hlater⟩ :=
      ih (h.handle event) (Nat.lt_of_lt_of_le hn hprecedes.nextTask_le) hnext
    -- The limit of a session never changes, so the two walks are parts of one.
    rw [hprecedes.config] at hblocks hmade hlater
    obtain ⟨hwalk, hplace, hall⟩ := Cursor.walk_add limit j k c
    refine ⟨j + k, ?_, ?_, ?_⟩
    · rw [dispatched_cons, hwalk, hblock, hblocks]
    · rw [copies, hall, hcopies, hmade]
    · rw [hplace]
      exact hlater

/-- The copies of one run of a chain have different ids, whatever they are copies of and whatever else
    happens meanwhile. The run dispatches blocks of the chain and copies, each as often as it is there, and
    those that it has not dispatched yet are due. If the chain has no id twice and none that ends in a tilde
    and a number, no id is dispatched twice. -/
theorem nodup_copies {s : Session α} (hs : s.Reachable) {n : Nat} {t : Task α} (ht : s.task? n = some t)
    {c : Chain} (hwork : t.work = .chain ⟨Cursor.start c, .dispatch⟩) (events : List (Event α)) :
    ((s.copies n events).map (·.id)).Nodup ∧
      (s.dispatched n events).Subperm (c.toList ++ s.copies n events) ∧
      (∀ later, (s.play events).task? n = some later → ∃ cursor, later.IsAt cursor ∧
        (s.dispatched n events ++ cursor.rest).Perm (c.toList ++ s.copies n events)) ∧
      ((c.toList.map (·.id)).Nodup → (∀ b ∈ c.toList, ¬ Numbered b.id) →
        ((s.dispatched n events).map (·.id)).Nodup) := by
  have hat : ∀ other, s.task? n = some other → other.IsAt (Cursor.start c) := by
    intro other hother
    rw [ht, Option.some.injEq] at hother
    exact hother ▸ ⟨.dispatch, hwork⟩
  obtain ⟨hmem, rfl⟩ := mem_of_task? ht
  have hcourse := isAt_play hs.consistent (hs.consistent.accounts.id_lt t hmem) hat events
  obtain ⟨k, hblocks, hmade, hplace⟩ := hcourse
  have hperm := Cursor.perm_walk s.stage.config.maxSteps k (Cursor.start c)
  rw [hblocks, hmade]
  refine ⟨Cursor.nodup_made .., ?_, ?_, ?_⟩
  · exact (List.sublist_append_left _ _).subperm.trans hperm.subperm
  · intro later hlater
    exact ⟨_, hplace later hlater, hperm⟩
  · intro hnodup hplain
    exact Cursor.nodup_walk hnodup hplain _ k

/-- The second repeat of the dog copies a copy, as often as the limit lets it. -/
theorem nodup_copies_echoing :
    let events : List (Event Float) := List.replicate 6 (.step 0)
    (echoing.copies 0 events).map (·.id) =
        ["m~1", "m~2", "m~2~3", "m~2~4", "m~2~5", "m~2~6", "m~2~7", "m~2~8"] ∧
      ((echoing.copies 0 events).map (·.id)).Nodup ∧ ((echoing.dispatched 0 events).map (·.id)).Nodup := by
  intro events
  have hreachable : echoing.Reachable := ⟨{ Config.default with maxSteps := 6 }, 0, _, rfl⟩
  have hfound : (echoing.task? 0).isSome = true := by decide
  obtain ⟨t, ht⟩ := Option.isSome_iff_exists.1 hfound
  have hstart : (echoing.task? 0).map (·.work) = some (.chain ⟨Cursor.start echoChain, .dispatch⟩) := rfl
  rw [ht, Option.map_some, Option.some.injEq] at hstart
  obtain ⟨hcopies, _, _, hblocks⟩ := nodup_copies hreachable ht hstart events
  exact ⟨by decide +kernel, hcopies, hblocks (by decide) (by decide +kernel)⟩

end Session

end SpriteStage
