import SpriteStage.Engine.Session

namespace SpriteStage

/-- What can happen next to a session. -/
inductive Event (α : Type) where
  | control (control : Control α)
  /-- The task with this id takes its next step, whether it is due or not. -/
  | step (task : Nat)
  /-- Some milliseconds go by. -/
  | pass (ms : Nat)

namespace Session

variable {α : Type}

/-- The task with an id, while it is under way. -/
def task? (s : Session α) (id : Nat) : Option (Task α) :=
  s.tasks.find? (·.id = id)

/-- A task that is found under an id is under way and has that id. -/
theorem mem_of_task? {s : Session α} {id : Nat} {t : Task α} (ht : s.task? id = some t) :
    t ∈ s.tasks ∧ t.id = id := by
  refine ⟨List.mem_of_find?_eq_some ht, ?_⟩
  simpa using List.find?_some ht

variable [Scalar α]

/-- The session after an event. A step of a task that is not under way does nothing. -/
def handle (event : Event α) (s : Session α) : Session α :=
  match event with
  | .control control => s.perform control
  | .step id =>
    match s.task? id with
    | none => s
    | some t => s.runTask t
  | .pass ms => { s with now := s.now + ms }

/-- The session after a list of events. -/
def play (events : List (Event α)) (s : Session α) : Session α :=
  events.foldl (fun s event => s.handle event) s

@[simp] theorem play_nil (s : Session α) : s.play [] = s := rfl

@[simp] theorem play_cons (event : Event α) (events : List (Event α)) (s : Session α) :
    s.play (event :: events) = (s.handle event).play events := rfl

/-- Playing two runs one behind the other is playing both in one. -/
theorem play_append (first rest : List (Event α)) (s : Session α) :
    s.play (first ++ rest) = (s.play first).play rest :=
  List.foldl_append

/-- The session comes about from a new one. -/
def Reachable (s : Session α) : Prop :=
  ∃ config entropy events, s = (new config entropy).play events

/-- Whatever goes on in a session that comes about, the session after it comes about too. -/
theorem Reachable.play {s : Session α} (hs : s.Reachable) (events : List (Event α)) :
    (s.play events).Reachable := by
  obtain ⟨config, entropy, before, rfl⟩ := hs
  exact ⟨config, entropy, before ++ events, (play_append before events _).symm⟩

/-- The session after a control operation comes about if the one before does. -/
theorem Reachable.perform {s : Session α} (hs : s.Reachable) (control : Control α) :
    (s.perform control).Reachable :=
  hs.play [.control control]

/-- What holds of a new session and outlasts every event holds of all sessions that come about. -/
theorem Reachable.induction {motive : Session α → Prop} {s : Session α} (hs : s.Reachable)
    (hnew : ∀ config entropy, motive (new config entropy))
    (hhandle : ∀ s event, motive s → motive (s.handle event)) : motive s := by
  obtain ⟨config, entropy, events, rfl⟩ := hs
  have hplay : ∀ s : Session α, motive s → motive (s.play events) := by
    induction events with
    | nil => exact fun s hs => hs
    | cons event rest ih => exact fun s hs => ih (s.handle event) (hhandle s event hs)
  exact hplay _ (hnew config entropy)

end Session

end SpriteStage
