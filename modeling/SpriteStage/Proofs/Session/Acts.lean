import SpriteStage.Proofs.Session.Precedes
import SpriteStage.Proofs.Task.Acts

namespace SpriteStage.Session

variable {α : Type}

/-- What the task with an id does at an event. -/
def act? (n : Nat) (event : Event α) (s : Session α) : Option (Act Block) :=
  match event with
  | .step id => if id = n then (s.task? n).bind (·.act? s.stage) else none
  | _ => none

variable [Scalar α]

/-- What the task with an id does in the course of a list of events. -/
def acts (n : Nat) : List (Event α) → Session α → List (Act Block)
  | [], _ => []
  | event :: events, s => (s.act? n event).toList ++ acts n events (s.handle event)

/-- The event is the turn of the task with an id, and the task does not use it for a frame of a glide
    that is not over. -/
def isTurn (n : Nat) (event : Event α) (s : Session α) : Bool :=
  match event with
  | .step id => id = n && !(s.task? n).any (·.isMidGlide s.now)
  | _ => false

/-- How many turns the task with an id has in the course of a list of events. -/
def turns (n : Nat) : List (Event α) → Session α → Nat
  | [], _ => 0
  | event :: events, s => (s.isTurn n event).toNat + turns n events (s.handle event)

/-- The acts of a chain in two runs, one behind the other, are its acts in the first and then those
    in the second. -/
theorem acts_append {n : Nat} (first rest : List (Event α)) (s : Session α) :
    s.acts n (first ++ rest) = s.acts n first ++ (s.play first).acts n rest := by
  induction first generalizing s with
  | nil => rfl
  | cons event first ih => rw [List.cons_append, acts, acts, ih, List.append_assoc, play_cons]

/-- A task that does nothing in the course of some events does nothing at the first of them either. -/
theorem acts_cons_eq_nil {n : Nat} {event : Event α} {events : List (Event α)} {s : Session α} :
    s.acts n (event :: events) = [] ↔ s.act? n event = none ∧ (s.handle event).acts n events = [] := by
  rw [acts, List.append_eq_nil_iff, Option.toList_eq_nil_iff]

omit [Scalar α] in
/-- A chain acts at its own steps only. -/
theorem act?_of_ne {n : Nat} {event : Event α} (hother : event ≠ .step n) (s : Session α) :
    s.act? n event = none := by
  cases event with
  | step id =>
    have hne : id ≠ n := fun hid => hother (congrArg Event.step hid)
    exact if_neg hne
  | control | pass => rfl

/-- A task has its turn at its own steps only. -/
theorem isTurn_of_ne {n : Nat} {event : Event α} (hother : event ≠ .step n) (s : Session α) :
    s.isTurn n event = false := by
  cases event with
  | step id =>
    have hne : id ≠ n := fun hid => hother (congrArg Event.step hid)
    simp [isTurn, hne]
  | control | pass => rfl

/-- A task that is gone does nothing more. -/
theorem acts_of_task?_eq_none {s : Session α} (h : s.Consistent) {n : Nat} (hn : n < s.nextTask)
    (hgone : s.task? n = none) (events : List (Event α)) : s.acts n events = [] := by
  induction events generalizing s with
  | nil => rfl
  | cons event rest ih =>
    have hprecedes := h.precedes_handle event
    have hact : s.act? n event = none := by
      unfold act?
      split
      · rw [hgone, Option.bind_none, ite_self]
      · rfl
    rw [acts, hact, ih (h.handle event) (Nat.lt_of_lt_of_le hn hprecedes.nextTask_le)
      (hprecedes.task?_eq_none hn hgone)]
    rfl

/-- A cancelled task does nothing more. -/
theorem acts_of_cancelled {s : Session α} (h : s.Consistent) {n : Nat} {t : Task α}
    (ht : s.task? n = some t) (hcancelled : s.stage.registry.isCancelled t.token = true)
    (events : List (Event α)) : s.acts n events = [] := by
  induction events generalizing s t with
  | nil => rfl
  | cons event rest ih =>
    obtain ⟨hmem, hid⟩ := mem_of_task? ht
    have hprecedes := h.precedes_handle event
    have hlt : n < s.nextTask := hid ▸ h.accounts.id_lt t hmem
    have hact : s.act? n event = none := by
      by_cases hother : event ≠ .step n
      · exact act?_of_ne hother s
      · rw [not_not] at hother
        simp only [hother, act?, if_true, ht, Option.bind_some, Task.act?_of_cancelled hcancelled]
    refine acts_cons_eq_nil.2 ⟨hact, ?_⟩
    cases hnext : (s.handle event).task? n with
    | none =>
      have hlt' := Nat.lt_of_lt_of_le hlt hprecedes.nextTask_le
      exact acts_of_task?_eq_none (h.handle event) hlt' hnext rest
    | some now =>
      obtain ⟨_, htoken, _⟩ := hprecedes.of_task?_eq_some hlt ht hnext
      have hstill := hprecedes.grows.cancelled (h.accounts.registered t hmem).serial_lt hcancelled
      exact ih (h.handle event) hnext (htoken ▸ hstill)

/-- One event takes at most the first act off the plan of a chain, and a turn of the chain brings it
    closer to its end. A chain that goes without having done all of its plan was cancelled. -/
theorem plan_handle {s : Session α} (h : s.Consistent) {t : Task α} (ht : t ∈ s.tasks)
    (hchain : t.isChain = true) (event : Event α) :
    (∃ now, (s.handle event).task? t.id = some now ∧ now.token = t.token ∧ now.isChain = true ∧
        (s.act? t.id event).toList ++ now.work.plan s.stage.config.maxSteps =
          t.work.plan s.stage.config.maxSteps ∧
        now.work.stepsLeft s.stage.config.maxSteps + (s.isTurn t.id event).toNat ≤
          t.work.stepsLeft s.stage.config.maxSteps) ∨
      (s.handle event).task? t.id = none ∧
        ((s.act? t.id event).toList = t.work.plan s.stage.config.maxSteps ∨
          s.act? t.id event = none ∧ s.stage.registry.isCancelled t.token = true) := by
  have hfound := h.task?_eq_some_iff.2 ⟨ht, rfl⟩
  have hlt := h.accounts.id_lt t ht
  by_cases hother : event ≠ .step t.id
  · rw [act?_of_ne hother, isTurn_of_ne hother, task?_handle hlt hother]
    exact Or.inl ⟨t, hfound, rfl, hchain, rfl, Nat.le_refl _⟩
  · rw [not_not] at hother
    subst hother
    have hact : s.act? t.id (.step t.id) = t.act? s.stage := by
      simp only [act?, if_true, hfound, Option.bind_some]
    have hturn : s.isTurn t.id (.step t.id) = !t.isMidGlide s.now := by
      simp only [isTurn, hfound, Option.any_some, decide_true, Bool.true_and]
    have hafter := task?_runTask hfound hlt
    simp only [handle, hfound, hact, hturn]
    rw [hafter, if_pos rfl]
    cases hcancelled : s.stage.registry.isCancelled t.token with
    | true =>
      have hnext : (t.step s.now s.stage).next = none := by rw [Task.step_of_cancelled hcancelled]
      rw [hnext]
      exact Or.inr ⟨rfl, Or.inr ⟨Task.act?_of_cancelled hcancelled, rfl⟩⟩
    | false =>
      have hknown := h.contains_of_live ht hcancelled
      have hplan := Task.plan_step hcancelled hknown hchain s.now
      have hleft := Task.stepsLeft_step hcancelled hknown hchain s.now
      cases hnext : (t.step s.now s.stage).next with
      | none =>
        rw [hnext, Option.elim_none, List.append_nil] at hplan
        exact Or.inr ⟨rfl, Or.inl hplan.symm⟩
      | some left =>
        obtain ⟨work, pause⟩ := left
        rw [hnext, Option.elim_some] at hplan hleft
        have hstill := (h.stepped ht).isChain_of_next hnext (t.work_resume work pause s.now s.nextStamp)
        refine Or.inl ⟨_, rfl, t.token_resume .., hstill.trans hchain, ?_⟩
        rw [Task.work_resume]
        exact ⟨hplan.symm, hleft⟩

/-- A chain does what is planned for it, as far as it comes: it is under way with the rest of its plan
    before it, or through with its plan, or cancelled. While it is under way, it has no more turns
    than its plan takes. -/
theorem acts_follow_plan {s : Session α} (h : s.Consistent) {n : Nat} {t : Task α}
    (ht : s.task? n = some t) (hchain : t.isChain = true) (events : List (Event α)) :
    (∃ now, (s.play events).task? n = some now ∧
        s.acts n events ++ now.work.plan s.stage.config.maxSteps =
          t.work.plan s.stage.config.maxSteps ∧
        now.work.stepsLeft s.stage.config.maxSteps + s.turns n events ≤
          t.work.stepsLeft s.stage.config.maxSteps) ∨
      s.acts n events = t.work.plan s.stage.config.maxSteps ∨
      (s.play events).stage.registry.isCancelled t.token = true ∧
        s.acts n events <+: t.work.plan s.stage.config.maxSteps := by
  induction events generalizing s t with
  | nil => exact Or.inl ⟨t, ht, rfl, Nat.le_refl _⟩
  | cons event rest ih =>
    obtain ⟨hmem, rfl⟩ := mem_of_task? ht
    have hconsistent := h.handle event
    have hprecedes := h.precedes_handle event
    rw [acts, turns, play_cons]
    rcases plan_handle h hmem hchain event with
      ⟨now, hnow, htoken, hstill, hplan, hleft⟩ | ⟨hgone, hend⟩
    · have hih := ih hconsistent hnow hstill
      rw [hprecedes.config, htoken] at hih
      rw [← hplan]
      rcases hih with ⟨later, hlater, hrest, hturns⟩ | hall | ⟨hcancelled, hpart⟩
      · exact Or.inl ⟨later, hlater, by rw [List.append_assoc, hrest], by omega⟩
      · exact Or.inr (Or.inl (by rw [hall]))
      · exact Or.inr (Or.inr ⟨hcancelled, (List.prefix_append_right_inj _).2 hpart⟩)
    · have hlt := Nat.lt_of_lt_of_le (h.accounts.id_lt t hmem) hprecedes.nextTask_le
      rw [acts_of_task?_eq_none hconsistent hlt hgone, List.append_nil]
      rcases hend with hall | ⟨hnone, hcancelled⟩
      · exact Or.inr (Or.inl hall)
      · have hlater := hprecedes.trans (hconsistent.precedes_play rest)
        have hserial := (h.accounts.registered t hmem).serial_lt
        rw [hnone]
        exact Or.inr (Or.inr ⟨hlater.grows.cancelled hserial hcancelled, List.nil_prefix⟩)

/-- A chain keeps to its plan, and it comes to the end of it, with two turns for each act at most,
    unless it is cancelled before. -/
theorem acts_prefix_plan {s : Session α} (h : s.Consistent) {n : Nat} {t : Task α}
    (ht : s.task? n = some t) {cursor : Cursor} (hwork : t.work = .chain ⟨cursor, .dispatch⟩)
    (events : List (Event α)) :
    let plan := cursor.plan s.stage.config.maxSteps
    s.acts n events <+: plan ∧
      (s.acts n events = plan ∨ (s.play events).stage.registry.isCancelled t.token = true ∨
        (s.play events).task? n ≠ none ∧ s.turns n events ≤ 2 * plan.length) := by
  intro plan
  have hplan : t.work.plan s.stage.config.maxSteps = plan := by rw [hwork]; rfl
  have hleft : t.work.stepsLeft s.stage.config.maxSteps = 2 * plan.length := by rw [hwork]; rfl
  have hcourse := acts_follow_plan h ht (Task.isChain_of_work hwork) events
  rw [hplan, hleft] at hcourse
  rcases hcourse with ⟨now, hnow, hrest, hturns⟩ | hall | ⟨hcancelled, hpart⟩
  · exact ⟨⟨_, hrest⟩, Or.inr (Or.inr ⟨by rw [hnow]; nofun, by omega⟩)⟩
  · exact ⟨hall ▸ List.prefix_refl _, Or.inl hall⟩
  · exact ⟨hpart, Or.inr (Or.inl hcancelled)⟩

/-- What a chain executes depends on its blocks and the step limit alone. Whatever else happens, it
    dispatches the blocks of its script in order, and it comes to the end of the script, with two
    turns for each block and two for the end at most, unless it is cancelled before. Then it ends: as
    runaway exactly if a further block is due once it has dispatched as many as the limit allows. -/
theorem acts_follow_script {s : Session α} (hs : s.Reachable) {n : Nat} {t : Task α}
    (ht : s.task? n = some t) {c : Chain} (hwork : t.work = .chain ⟨Cursor.start c, .dispatch⟩)
    (events : List (Event α)) :
    let limit := s.stage.config.maxSteps
    let course := (c.script limit).map .dispatch ++ [.finish (c.ending limit)]
    (c.script limit).length ≤ limit ∧ s.acts n events <+: course ∧
      (s.acts n events = course ∨ (s.play events).stage.registry.isCancelled t.token = true ∨
        (s.play events).task? n ≠ none ∧ s.turns n events ≤ 2 * course.length) ∧
      (c.ending limit = .runaway ↔
        (c.script limit).length = limit ∧ ((Cursor.start c).walk limit limit).2.rest ≠ []) ∧
      (c.ending limit = .completed ↔ ((Cursor.start c).walk limit limit).2.rest = []) := by
  intro limit course
  obtain ⟨hpart, hend⟩ := acts_prefix_plan hs.consistent ht hwork events
  refine ⟨c.length_script_le limit, hpart, hend, ?_, ?_⟩
  · rw [c.ending_eq_runaway_iff limit]
    exact ⟨fun hrest => ⟨Cursor.length_walk hrest, hrest⟩, And.right⟩
  · exact c.ending_eq_completed_iff limit

/-- A chain of an unknown block between two repeats. -/
def strayChain : Chain :=
  ⟨⟨"f", "when_flag_clicked", [], [], []⟩, [⟨"r", "repeat", [("TIMES", .int 2)], [], []⟩,
    ⟨"u", "teleport", [], [], []⟩, ⟨"q", "repeat", [], [], []⟩]⟩

/-- A dog that is about to run that chain with a limit of four blocks. -/
def straying : Session Float :=
  (new { Config.default with maxSteps := 4 } 0).play
    [.control (.add .dog), .control (.setProgram 1 [strayChain]), .control (.run 1)]

/-- The chain keeps to its script while its sprite gets another program. -/
theorem acts_follow_script_straying : ∃ t, straying.task? 0 = some t ∧
    t.work = .chain ⟨Cursor.start strayChain, .dispatch⟩ ∧
    straying.acts 0 [.step 0, .control (.setProgram 1 []), .step 0, .step 0] <+:
      (strayChain.script 4).map .dispatch ++ [.finish (strayChain.ending 4)] := by
  have hreachable : straying.Reachable := ⟨{ Config.default with maxSteps := 4 }, 0, _, rfl⟩
  have hfound : (straying.task? 0).isSome = true := by decide
  obtain ⟨t, ht⟩ := Option.isSome_iff_exists.1 hfound
  have hstart : (straying.task? 0).map (·.work) = some (.chain ⟨Cursor.start strayChain, .dispatch⟩) := rfl
  rw [ht, Option.map_some, Option.some.injEq] at hstart
  have hcourse := acts_follow_script hreachable ht hstart
    [.step 0, .control (.setProgram 1 []), .step 0, .step 0]
  exact ⟨t, ht, hstart, hcourse.2.1⟩

end SpriteStage.Session
