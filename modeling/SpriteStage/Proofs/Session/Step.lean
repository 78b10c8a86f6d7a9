import SpriteStage.Proofs.Keyed
import SpriteStage.Proofs.Session.Reachable

namespace SpriteStage

variable {α : Type}

/-- The task with the work that a step left it. Without a pause it keeps its turn. -/
def Task.resume (work : Work α) (pause now stamp : Nat) (t : Task α) : Task α :=
  if pause = 0 then { t with work := work }
  else { t with work := work, wake := now + pause, stamp := stamp }

namespace Task

variable (work : Work α) (pause now stamp : Nat) (t : Task α)

@[simp] theorem id_resume : (t.resume work pause now stamp).id = t.id := by
  unfold resume
  split <;> rfl

@[simp] theorem sprite_resume : (t.resume work pause now stamp).sprite = t.sprite := by
  unfold resume
  split <;> rfl

@[simp] theorem token_resume : (t.resume work pause now stamp).token = t.token := by
  unfold resume
  split <;> rfl

/-- A task that goes on has the work that it was given; its id, its sprite and its token stay. -/
@[simp] theorem work_resume : (t.resume work pause now stamp).work = work := by
  unfold resume
  split <;> rfl

end Task

namespace Session

/-- A new task hides none of those that are under way. -/
theorem task?_spawn {s : Session α} (sprite : Nat) (token : Token) (work : Work α) {id : Nat}
    (hid : id < s.nextTask) : (s.spawn sprite token work).task? id = s.task? id := by
  have hne : s.nextTask ≠ id := by omega
  unfold task? spawn
  rw [Keyed.find?_add Task.id, if_neg hne, Option.or_none]

/-- The session after a step at which the task came to its end. -/
def conclude (t : Task α) (stage : Stage α) (s : Session α) : Session α :=
  { s with
    stage := stage
    tasks := s.tasks.filter (·.id ≠ t.id)
    nextStamp := s.nextStamp + 1 }

/-- The session after a step that left the task some work to do. -/
def proceed (t : Task α) (stage : Stage α) (work : Work α) (pause : Nat) (s : Session α) : Session α :=
  { s with
    stage := stage
    tasks := s.tasks.map fun other =>
      if other.id = t.id then other.resume work pause s.now s.nextStamp else other
    nextStamp := s.nextStamp + 1 }

/-- A task that is over is found no more. -/
theorem task?_conclude (s : Session α) (t : Task α) (stage : Stage α) (id : Nat) :
    (s.conclude t stage).task? id = if id = t.id then none else s.task? id :=
  Keyed.find?_remove Task.id s.tasks t.id id

/-- A task that goes on is found with its new work, and all others as they were. -/
theorem task?_proceed (s : Session α) (t : Task α) (stage : Stage α) (work : Work α) (pause id : Nat) :
    (s.proceed t stage work pause).task? id =
      if id = t.id then (s.task? t.id).map (·.resume work pause s.now s.nextStamp)
      else s.task? id :=
  Keyed.find?_change Task.id (·.resume work pause s.now s.nextStamp)
    (fun other hother => (other.id_resume work pause _ _).trans hother) s.tasks id

variable [Scalar α]

/-- The stage after the step of a task is the one that the step makes of it. -/
theorem stage_runTask (t : Task α) (s : Session α) :
    (s.runTask t).stage = (t.step s.now s.stage).stage := by
  unfold runTask
  dsimp only
  split <;> rfl

/-- A step ends the task or leaves it some work, and then it may start a timer. -/
theorem runTask_eq (t : Task α) (s : Session α) :
    s.runTask t =
      let result := t.step s.now s.stage
      let after := result.next.elim (s.conclude t result.stage) fun (work, pause) =>
        s.proceed t result.stage work pause
      result.timer.elim after fun delay =>
        after.spawn t.sprite (result.stage.registry.speechToken t.sprite) (.clearSpeech delay false) := by
  unfold runTask
  obtain ⟨stage, next, timer⟩ := t.step s.now s.stage
  rcases next with _ | ⟨work, pause⟩ <;> cases timer <;> rfl

/-- What becomes of the tasks that were there before the step. -/
theorem task?_runTask {s : Session α} {t : Task α} (ht : s.task? t.id = some t) {id : Nat}
    (hid : id < s.nextTask) :
    (s.runTask t).task? id =
      if id = t.id then
        (t.step s.now s.stage).next.map fun (work, pause) => t.resume work pause s.now s.nextStamp
      else s.task? id := by
  rw [runTask_eq]
  obtain ⟨stage, next, timer⟩ := t.step s.now s.stage
  dsimp only
  have hafter : (next.elim (s.conclude t stage) fun (work, pause) =>
      s.proceed t stage work pause).task? id =
        if id = t.id then next.map fun (work, pause) => t.resume work pause s.now s.nextStamp
        else s.task? id := by
    rcases next with _ | ⟨work, pause⟩
    · exact task?_conclude s t stage id
    · rw [Option.elim_some, task?_proceed, ht]
      rfl
  have hnext : (next.elim (s.conclude t stage) fun (work, pause) =>
      s.proceed t stage work pause).nextTask = s.nextTask := by
    cases next <;> rfl
  cases timer with
  | none => exact hafter
  | some delay =>
    rw [Option.elim_some, task?_spawn _ _ _ (by rwa [hnext])]
    exact hafter

end Session

end SpriteStage
