import SpriteStage.Proofs.Session.Precedes

namespace SpriteStage

variable {α : Type}

namespace Task

/-- The task without its place among the tasks that are due at the same time. -/
def unstamped (t : Task α) : Task α :=
  { t with stamp := 0 }

/-- But for stamps, resuming a task is the same at every stamp. -/
theorem unstamped_resume (work : Work α) (pause now stamp later : Nat) (t : Task α) :
    (t.resume work pause now stamp).unstamped =
      (t.unstamped.resume work pause now later).unstamped := by
  unfold resume
  split <;> rfl

/-- The tasks from an id on, without their stamps. -/
def recent (bound : Nat) (tasks : List (Task α)) : List (Task α) :=
  (tasks.filter (bound ≤ ·.id)).map unstamped

/-- A recent task has an id that was given out since. -/
theorem le_id_of_mem_recent {bound : Nat} {tasks : List (Task α)} {t : Task α}
    (ht : t ∈ recent bound tasks) : bound ≤ t.id := by
  obtain ⟨old, hold, rfl⟩ := List.mem_map.1 ht
  exact of_decide_eq_true (List.mem_filter.1 hold).2

theorem recent_recent (bound : Nat) (tasks : List (Task α)) :
    recent bound (recent bound tasks) = recent bound tasks := by
  rw [recent, List.filter_eq_self.2, recent, List.map_map]
  · rfl
  · intro t ht
    simpa using le_id_of_mem_recent ht

theorem recent_remove (bound n : Nat) (tasks : List (Task α)) :
    recent bound (tasks.filter (·.id ≠ n)) = (recent bound tasks).filter (·.id ≠ n) := by
  unfold recent
  rw [List.filter_map, List.filter_filter, List.filter_filter]
  congr 1
  apply List.filter_congr
  intro t _
  exact Bool.and_comm _ _

theorem recent_append (bound : Nat) (tasks new : List (Task α)) :
    recent bound (tasks ++ new) = recent bound tasks ++ recent bound new := by
  unfold recent
  rw [List.filter_append, List.map_append]

/-- What changes no id and does the same to a task whatever its stamp is. -/
theorem recent_map {bound : Nat} {change later : Task α → Task α} (hid : ∀ t, (change t).id = t.id)
    (hlater : ∀ t, (later t).id = t.id)
    (hsame : ∀ t, (change t).unstamped = (later t.unstamped).unstamped) (tasks : List (Task α)) :
    recent bound (tasks.map change) = recent bound ((recent bound tasks).map later) := by
  have hfilter : ((recent bound tasks).map later).filter (bound ≤ ·.id) =
      (recent bound tasks).map later := by
    apply List.filter_eq_self.2
    intro t ht
    obtain ⟨old, hold, rfl⟩ := List.mem_map.1 ht
    simpa [hlater] using le_id_of_mem_recent hold
  have hids : (fun t => decide (bound ≤ t.id)) ∘ change = fun t => decide (bound ≤ t.id) := by
    funext t
    simp [hid]
  calc recent bound (tasks.map change)
    _ = ((tasks.filter (bound ≤ ·.id)).map change).map unstamped := by
      rw [recent, List.filter_map, hids]
    _ = ((recent bound tasks).map later).map unstamped := by
      simp only [recent, List.map_map]
      exact List.map_congr_left fun t _ => hsame t
    _ = recent bound ((recent bound tasks).map later) := by rw [recent.eq_1 bound (List.map _ _), hfilter]

end Task

namespace Session

/-- The session without the tasks from before the one with an id, and without stamps. -/
def since (bound : Nat) (s : Session α) : Session α :=
  { s with tasks := Task.recent bound s.tasks, nextStamp := 0 }

/-- Sessions that differ in tasks from before a bound and in stamps at most. -/
theorem since_congr {s other : Session α} {bound : Nat} (hstage : s.stage = other.stage)
    (hnow : s.now = other.now) (hnext : s.nextTask = other.nextTask)
    (htasks : Task.recent bound s.tasks = Task.recent bound other.tasks) :
    s.since bound = other.since bound := by
  unfold since
  rw [hstage, hnow, hnext, htasks]

/-- Sessions that are the same since some time have the same stage. -/
theorem stage_eq_of_since {s other : Session α} {bound : Nat}
    (hsame : s.since bound = other.since bound) : s.stage = other.stage := by
  have hstage : (s.since bound).stage = (other.since bound).stage := by rw [hsame]
  exact hstage

theorem since_since (bound : Nat) (s : Session α) : (s.since bound).since bound = s.since bound :=
  since_congr rfl rfl rfl (Task.recent_recent bound s.tasks)

/-- Since some time the tasks are those with later ids, without their stamps. -/
theorem task?_since (bound : Nat) (s : Session α) (n : Nat) :
    (s.since bound).task? n = if bound ≤ n then (s.task? n).map Task.unstamped else none := by
  unfold task? since Task.recent
  rw [List.find?_map, List.find?_filter]
  split
  case isTrue hle =>
    congr 2
    funext t
    by_cases hid : t.id = n <;> simp [hid, hle, Task.unstamped]
  case isFalse hlt =>
    rw [List.find?_eq_none.2, Option.map_none]
    intro t _ hfound
    obtain ⟨hle, hid⟩ := of_decide_eq_true hfound
    have hle : bound ≤ t.id := of_decide_eq_true hle
    have hid : t.id = n := of_decide_eq_true hid
    omega

/-- The end of a task is the same with and without the tasks from before. -/
theorem since_conclude (bound : Nat) (t : Task α) (stage : Stage α) (s : Session α) :
    (s.conclude t stage).since bound = ((s.since bound).conclude t.unstamped stage).since bound := by
  apply since_congr (by rfl) (by rfl) (by rfl)
  simp only [conclude, since, Task.recent_remove, Task.recent_recent]
  rfl

/-- The resumption of a task is the same with and without the tasks from before. -/
theorem since_proceed (bound : Nat) (t : Task α) (stage : Stage α) (work : Work α) (pause : Nat)
    (s : Session α) : (s.proceed t stage work pause).since bound =
      ((s.since bound).proceed t.unstamped stage work pause).since bound := by
  apply since_congr (by rfl) (by rfl) (by rfl)
  apply Task.recent_map
  · intro other
    split
    · exact other.id_resume _ _ _ _
    · rfl
  · intro other
    split
    · exact other.id_resume _ _ _ _
    · rfl
  · intro other
    have hid : other.unstamped.id = t.unstamped.id ↔ other.id = t.id := Iff.rfl
    simp only [hid]
    split
    · exact Task.unstamped_resume _ _ _ _ _ _
    · rfl

/-- A way to go on with a session that neither needs tasks from before a bound nor stamps. -/
structure Forgetful (bound : Nat) (change : Session α → Session α) : Prop where
  nextTask_le : ∀ s, s.nextTask ≤ (change s).nextTask
  since : ∀ s, bound ≤ s.nextTask → (change s).since bound = (change (s.since bound)).since bound

namespace Forgetful

variable {bound : Nat}

theorem refl : Forgetful bound fun s : Session α => s :=
  ⟨fun _ => Nat.le_refl _, fun s _ => (s.since_since bound).symm⟩

theorem trans {first next : Session α → Session α} (hfirst : Forgetful bound first)
    (hnext : Forgetful bound next) : Forgetful bound fun s => next (first s) := by
  refine ⟨fun s => Nat.le_trans (hfirst.nextTask_le s) (hnext.nextTask_le _), ?_⟩
  intro s hle
  have hhere := hnext.since (first s) (Nat.le_trans hle (hfirst.nextTask_le s))
  have hthere := hnext.since (first (s.since bound)) (Nat.le_trans hle (hfirst.nextTask_le (s.since bound)))
  rw [hhere, hfirst.since s hle, ← hthere]

/-- Doing one after the other what forgets older tasks forgets them too. -/
theorem foldl {β : Type} {change : Session α → β → Session α}
    (hchange : ∀ x, Forgetful bound (change · x)) (xs : List β) :
    Forgetful bound fun s => xs.foldl change s := by
  induction xs with
  | nil => exact refl
  | cons x rest ih => exact (hchange x).trans ih

/-- What happens to the stage alone forgets older tasks. -/
theorem onStage (change : Stage α → Stage α) : Forgetful bound (Session.onStage change) :=
  ⟨fun _ => Nat.le_refl _, fun s _ => ((s.onStage change).since_since bound).symm⟩

theorem spawn (sprite : Nat) (token : Token) (work : Work α) :
    Forgetful bound (Session.spawn sprite token work) := by
  refine ⟨fun s => Nat.le_succ _, ?_⟩
  intro s hle
  apply since_congr (by rfl) (by rfl) (by rfl)
  simp only [Session.spawn, Session.since, Task.recent_append, Task.recent_recent]
  simp [Task.recent, Task.unstamped, hle]

variable [Scalar α]

theorem startChain (id : Nat) (chain : Chain) :
    Forgetful bound fun s : Session α => s.startChain id chain := by
  refine ⟨fun s => Nat.le_succ _, ?_⟩
  intro s hle
  let registry := s.stage.registry.startChain id
  let stage := ({ s.stage with registry := registry } : Stage α).commit id fun sprite =>
    { sprite with isRunning := true }
  exact (spawn id (registry.chainToken id) (.chain ⟨Cursor.start chain, .dispatch⟩)).since
    { s with stage := stage } hle

theorem startChosen (choose : Program → List Chain) (id : Nat) :
    Forgetful bound (Session.startChosen choose id : Session α → Session α) := by
  have hchosen (s : Session α) : ∃ change : Session α → Session α, Forgetful bound change ∧
      s.startChosen choose id = change s ∧
      (s.since bound).startChosen choose id = change (s.since bound) := by
    have hprogram : (s.since bound).stage.programOf id = s.stage.programOf id := rfl
    unfold Session.startChosen
    rw [hprogram]
    cases choose (s.stage.programOf id) with
    | nil => exact ⟨_, refl, rfl, rfl⟩
    | cons chain rest =>
      have hstart : Forgetful bound fun s : Session α =>
          (chain :: rest).foldl (Session.startChain id) s := foldl (startChain id) (chain :: rest)
      have hhalt : Forgetful bound (Session.halt id : Session α → Session α) :=
        ⟨fun _ => Nat.le_refl _, fun s _ => ((s.halt id).since_since bound).symm⟩
      exact ⟨_, hhalt.trans hstart, rfl, rfl⟩
  refine ⟨?_, ?_⟩
  all_goals
    intro s
    obtain ⟨change, hchange, hhere, hthere⟩ := hchosen s
    rw [hhere]
  · exact hchange.nextTask_le s
  · rw [hthere]
    exact hchange.since s

/-- Every control operation forgets older tasks. -/
theorem perform (control : Control α) : Forgetful bound (Session.perform control) := by
  cases control with
  | run id => exact startChosen Program.flagged id
  | runAll =>
    have hall (ids : List Nat) : Forgetful bound fun s : Session α =>
        ids.foldl (fun s id => s.startChosen Program.topLevel id) s :=
      foldl (startChosen Program.topLevel) ids
    exact ⟨fun s => (hall s.stage.store.ids).nextTask_le s,
      fun s => (hall s.stage.store.ids).since s⟩
  | toggleHero => exact onStage fun stage => stage.switchHero (!stage.hero.enabled)
  | _ => exact onStage _

/-- A step of a recent task is the same with and without the tasks from before. -/
theorem runTask (t : Task α) (s : Session α) (hle : bound ≤ s.nextTask) :
    (s.runTask t).since bound = ((s.since bound).runTask t.unstamped).since bound := by
  have hstep : t.unstamped.step (s.since bound).now (s.since bound).stage = t.step s.now s.stage := rfl
  simp only [runTask_eq, hstep]
  obtain ⟨stage, next, timer⟩ := t.step s.now s.stage
  let go (s : Session α) (t : Task α) : Session α :=
    next.elim (s.conclude t stage) fun left => s.proceed t stage left.1 left.2
  have hgo : (go s t).since bound = (go (s.since bound) t.unstamped).since bound := by
    cases next with
    | none => exact since_conclude bound t stage s
    | some left => exact since_proceed bound t stage left.1 left.2 s
  have hnext (s : Session α) (t : Task α) : (go s t).nextTask = s.nextTask := by
    simp only [go]
    cases next <;> rfl
  cases timer with
  | none => exact hgo
  | some delay =>
    have hspawn : Forgetful bound (Session.spawn t.sprite (stage.registry.speechToken t.sprite)
        (.clearSpeech delay false : Work α)) := spawn _ _ _
    have hhere := hspawn.since (go s t) (by rw [hnext]; exact hle)
    have hthere := hspawn.since (go (s.since bound) t.unstamped) (by rw [hnext]; exact hle)
    rw [hgo] at hhere
    exact hhere.trans hthere.symm

end Forgetful

variable [Scalar α]

/-- All tasks from before a bound were cancelled. -/
structure Outlives (bound : Nat) (s : Session α) : Prop where
  consistent : s.Consistent
  le_nextTask : bound ≤ s.nextTask
  cancelled : ∀ n t, n < bound → s.task? n = some t → s.stage.registry.isCancelled t.token = true

namespace Outlives

variable {bound : Nat}

/-- A task that was cancelled stays cancelled, and no task from before the bound comes in. -/
theorem handle {s : Session α} (h : s.Outlives bound) (event : Event α) :
    (s.handle event).Outlives bound := by
  have hprecedes := h.consistent.precedes_handle event
  refine ⟨h.consistent.handle event, Nat.le_trans h.le_nextTask hprecedes.nextTask_le, ?_⟩
  intro n t hn ht
  obtain ⟨old, hold, _, htoken, _⟩ :=
    hprecedes.task? n t (Nat.lt_of_lt_of_le hn h.le_nextTask) ht
  rw [← htoken]
  exact hprecedes.grows.cancelled (h.consistent.accounts.registered old (mem_of_task? hold).1).serial_lt
    (h.cancelled n old hn hold)

/-- An event needs nothing but the tasks from the bound on. -/
theorem since_handle {s : Session α} (h : s.Outlives bound) (event : Event α) :
    (s.handle event).since bound = ((s.since bound).handle event).since bound := by
  cases event with
  | control control => exact (Forgetful.perform control).since s h.le_nextTask
  | pass ms => exact (since_since bound { s with now := s.now + ms }).symm
  | step n =>
    simp only [Session.handle, task?_since]
    cases ht : s.task? n with
    | none =>
      simp only [Option.map_none, ite_self]
      exact (s.since_since bound).symm
    | some t =>
      by_cases hle : bound ≤ n
      · rw [if_pos hle]
        exact Forgetful.runTask t s h.le_nextTask
      · -- A task from before the bound is dropped, and the stage is left as it is.
        have hn : n < bound := by omega
        have hcancelled := h.cancelled n t hn ht
        have hstep : t.step s.now s.stage = ⟨s.stage, none, none⟩ := if_pos hcancelled
        obtain ⟨_, rfl⟩ := mem_of_task? ht
        have hkept : (Task.recent bound s.tasks).filter (·.id ≠ t.id) = Task.recent bound s.tasks := by
          apply List.filter_eq_self.2
          intro other hother
          have hle := Task.le_id_of_mem_recent hother
          apply decide_eq_true
          omega
        simp only [if_neg hle]
        rw [since_since, runTask_eq, hstep]
        simp only [Option.elim_none]
        apply since_congr (by rfl) (by rfl) (by rfl)
        simp only [conclude, Task.recent_remove, hkept]

/-- Sessions that differ in cancelled tasks go on in the same way, whatever happens to them. -/
theorem since_play {s other : Session α} (h : s.Outlives bound) (hother : other.Outlives bound)
    (hsame : s.since bound = other.since bound) (events : List (Event α)) :
    (s.play events).since bound = (other.play events).since bound := by
  induction events generalizing s other with
  | nil => exact hsame
  | cons event rest ih =>
    rw [play_cons, play_cons]
    apply ih (h.handle event) (hother.handle event)
    rw [h.since_handle, hother.since_handle, hsame]

end Outlives

end Session

end SpriteStage
