import SpriteStage.Engine.Task

namespace SpriteStage

/-- A stage with the tasks that are under way on it and a clock. Control operations act at once and
    may start chains; the tasks act later, one step at a time. -/
structure Session (α : Type) where
  stage : Stage α
  tasks : List (Task α)
  /-- The id of the next task. -/
  nextTask : Nat
  nextStamp : Nat
  /-- The time in milliseconds since the session began. -/
  now : Nat

/-- What a user can do to the stage. -/
inductive Control (α : Type) where
  | add (kind : SpriteKind)
  | select (id : Nat)
  | unselect
  | delete (id : Nat)
  | setPosition (id : Nat) (axis : Axis) (value : α)
  | moveTo (id : Nat) (position : Position α)
  | setRotation (id : Nat) (rotation : α)
  | changeSize (id : Nat) (delta : α)
  | setProgram (id : Nat) (program : Program)
  | movePointer (pointer : Position α)
  /-- Start the flagged chains of one sprite. -/
  | run (id : Nat)
  /-- Start the top-level chains of all sprites. -/
  | runAll
  | undo
  | reset
  | switchHero (enabled : Bool)
  | toggleHero

/-- What a control operation reports. -/
inductive Reply where
  | done
  /-- Whether the sprite was there. -/
  | found (known : Bool)
  | added (id : Nat)
  /-- How many chains were started. -/
  | started (chains : Nat)
  /-- The sprite that was put back, if any. -/
  | undone (id : Option Nat)
  /-- Whether Hero Mode is on now. -/
  | hero (enabled : Bool)
deriving DecidableEq, Repr

namespace Session

variable {α : Type} [Scalar α]

def new (config : Config) (entropy : Nat) : Session α :=
  ⟨.new config entropy, [], 0, 0, 0⟩

omit [Scalar α] in
/-- Adds a task that is due at once. -/
def spawn (sprite : Nat) (token : Token) (work : Work α) (s : Session α) : Session α :=
  { s with
    tasks := s.tasks ++ [⟨s.nextTask, sprite, token, work, s.now, s.nextStamp⟩]
    nextTask := s.nextTask + 1
    nextStamp := s.nextStamp + 1 }

/-- Starts one chain on a sprite. -/
def startChain (id : Nat) (s : Session α) (chain : Chain) : Session α :=
  let registry := s.stage.registry.startChain id
  let stage := ({ s.stage with registry := registry }).commit id fun sprite =>
    { sprite with isRunning := true }
  ({ s with stage := stage }).spawn id (registry.chainToken id)
    (.chain ⟨Cursor.start chain, .dispatch⟩)

/-- Starts chains on a sprite in place of those that run on it, and logs the sprite as it was. -/
def startRun (id : Nat) (chains : List Chain) (s : Session α) : Session α :=
  let stage := s.stage.cancelChains id
  let undo := match stage.store.get? id with
    | some prior => stage.undo.push id prior
    | none => stage.undo
  chains.foldl (startChain id) { s with stage := { stage with undo := undo } }

/-- Starts the chains that a choice picks from the program of a sprite, if there are any. -/
def startChosen (choose : Program → List Chain) (id : Nat) (s : Session α) : Session α :=
  match choose (s.stage.programOf id) with
  | [] => s
  | chains => s.startRun id chains

def run (id : Nat) (s : Session α) : Session α :=
  s.startChosen Program.flagged id

def runAll (s : Session α) : Session α :=
  s.stage.store.ids.foldl (fun s id => s.startChosen Program.topLevel id) s

/-- Changes the stage and nothing else. -/
def onStage (change : Stage α → Stage α) (s : Session α) : Session α :=
  { s with stage := change s.stage }

/-- Carries out a control operation. -/
def perform (control : Control α) (s : Session α) : Session α :=
  match control with
  | .add kind => s.onStage (.add kind)
  | .select id => s.onStage (.select id)
  | .unselect => s.onStage .unselect
  | .delete id => s.onStage (.delete id)
  | .setPosition id axis value => s.onStage (.setPosition id axis value)
  | .moveTo id position => s.onStage (.moveTo id position)
  | .setRotation id rotation => s.onStage (.setRotation id rotation)
  | .changeSize id delta => s.onStage (.changeSize id delta)
  | .setProgram id program => s.onStage (.setProgram id program)
  | .movePointer pointer => s.onStage (.movePointer pointer)
  | .run id => s.run id
  | .runAll => s.runAll
  | .undo => s.onStage .undoLast
  | .reset => s.onStage .reset
  | .switchHero enabled => s.onStage (.switchHero enabled)
  | .toggleHero => s.onStage fun stage => stage.switchHero (!stage.hero.enabled)

/-- What a control operation reports about the session it is carried out on. The chains of different
    sprites are chosen independently, so `runAll` reports the sum of what each of them starts. -/
def reply (control : Control α) (s : Session α) : Reply :=
  let known (id : Nat) : Reply := .found (s.stage.store.contains id)
  match control with
  | .add _ => .added s.stage.store.nextId
  | .select id => known id
  | .unselect => .done
  | .delete id => known id
  | .setPosition id _ _ => known id
  | .moveTo id _ => known id
  | .setRotation id _ => known id
  | .changeSize id _ => known id
  | .setProgram id _ => known id
  | .movePointer _ => .done
  | .run id => .started (s.stage.programOf id).flagged.length
  | .runAll => .started (s.runAll.nextTask - s.nextTask)
  | .undo => .undone s.stage.undone?
  | .reset => .done
  | .switchHero _ => .done
  | .toggleHero => .hero (!s.stage.hero.enabled)

/-- Runs one step of a task. A task that does not sleep keeps its turn; one that sleeps or starts
    waits behind those that sleep until the same time already. -/
def runTask (task : Task α) (s : Session α) : Session α :=
  let result := task.step s.now s.stage
  let tasks := match result.next with
    | none => s.tasks.filter (·.id ≠ task.id)
    | some (work, pause) =>
      s.tasks.map fun t =>
        if t.id = task.id then
          if pause = 0 then { t with work := work }
          else { t with work := work, wake := s.now + pause, stamp := s.nextStamp }
        else t
  let s := { s with stage := result.stage, tasks := tasks, nextStamp := s.nextStamp + 1 }
  match result.timer with
  | none => s
  | some delay =>
    s.spawn task.sprite (result.stage.registry.speechToken task.sprite) (.clearSpeech delay false)

end Session

end SpriteStage
