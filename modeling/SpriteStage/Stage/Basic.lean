import SpriteStage.Program.Export
import SpriteStage.Stage.Config
import SpriteStage.Stage.HeroMode
import SpriteStage.Stage.RandomStream
import SpriteStage.Stage.TaskRegistry
import SpriteStage.Stage.UndoLog

namespace SpriteStage

/-- The coordinate that is set while the other is kept. -/
inductive Axis where
  | x
  | y
deriving DecidableEq, Repr

/-- The sprites and all that goes with them. The operations on a stage act at once, and a sprite id
    that is unknown makes them do nothing. -/
structure Stage (α : Type) where
  config : Config
  store : Store α
  undo : UndoLog α
  hero : HeroMode
  registry : TaskRegistry
  pointer : Position α
  random : RandomStream

namespace Stage

variable {α : Type} [Scalar α]

/-- An empty stage. Without a seed in its settings it takes its random positions from
    `entropy`. -/
def new (config : Config) (entropy : Nat) : Stage α :=
  { config := config.sanitized
    store := .empty
    undo := .empty
    hero := .off
    registry := .empty
    pointer := .origin
    random := .ofSeed (config.seed.getD entropy) }

/-- Lets Hero Mode react to the present layout. -/
def react (stage : Stage α) : Stage α :=
  { stage with
    store := stage.hero.settle stage.store
    hero := stage.hero.observe stage.store }

/-- Changes one sprite, then lets Hero Mode react. -/
def commit (id : Nat) (change : Sprite α → Sprite α) (stage : Stage α) : Stage α :=
  if stage.store.contains id then react { stage with store := stage.store.update id change }
  else stage

def add (kind : SpriteKind) (stage : Stage α) : Stage α :=
  react { stage with store := stage.store.add kind }

omit [Scalar α] in
def select (id : Nat) (stage : Stage α) : Stage α :=
  { stage with store := stage.store.select id }

omit [Scalar α] in
def unselect (stage : Stage α) : Stage α :=
  { stage with store := stage.store.unselect }

omit [Scalar α] in
/-- Removes a sprite with its outstanding work, its tracked contacts and its undo entries. -/
def delete (id : Nat) (stage : Stage α) : Stage α :=
  if stage.store.contains id then
    { stage with
      registry := stage.registry.cancelSprite id
      store := stage.store.remove id
      hero := stage.hero.forget id
      undo := stage.undo.forget id }
  else stage

def setPosition (id : Nat) (axis : Axis) (value : α) : Stage α → Stage α :=
  commit id fun s => match axis with
    | .x => { s with position := { s.position with x := value } }
    | .y => { s with position := { s.position with y := value } }

def moveTo (id : Nat) (position : Position α) : Stage α → Stage α :=
  commit id fun s => { s with position := position }

def setRotation (id : Nat) (rotation : α) : Stage α → Stage α :=
  commit id fun s => { s with rotation := rotation }

def changeSize (id : Nat) (delta : α) : Stage α → Stage α :=
  commit id fun s => { s with size := s.size + delta }

def setProgram (id : Nat) (program : Program) : Stage α → Stage α :=
  commit id fun s => { s with program := program }

omit [Scalar α] in
def movePointer (pointer : Position α) (stage : Stage α) : Stage α :=
  { stage with pointer := pointer }

omit [Scalar α] in
/-- Stops the chains of a sprite and what it shows of them. Hero Mode has nothing to react to. -/
def cancelChains (id : Nat) (stage : Stage α) : Stage α :=
  { stage with
    registry := stage.registry.cancelChains id
    store := stage.store.update id Sprite.idle }

/-- Takes the newest entry off the undo log and puts its sprite back as it was, with its chains
    stopped. -/
def undoLast (stage : Stage α) : Stage α :=
  match stage.undo.pop? with
  | none => stage
  | some (entry, rest) =>
    (cancelChains entry.id { stage with undo := rest }).commit entry.id fun _ => entry.prior.idle

/-- The sprite that `undoLast` puts back. -/
def undone? (stage : Stage α) : Option Nat :=
  stage.undo.pop?.bind fun (entry, _) => if stage.store.contains entry.id then some entry.id else none

/-- Stops all work, puts every sprite back to its starting pose and empties the undo log. Programs
    are kept. -/
def reset (stage : Stage α) : Stage α :=
  react { stage with
    registry := stage.registry.cancelAll
    store := stage.store.ids.foldl (fun store id => store.update id Sprite.reset) stage.store
    undo := .empty }

/-- Switches Hero Mode; switched on, it reacts to the present layout. -/
def switchHero (enabled : Bool) (stage : Stage α) : Stage α :=
  let stage := { stage with hero := stage.hero.switch enabled }
  if enabled then react stage else stage

/-- The program of a sprite; a sprite that is not there has none. -/
def programOf (id : Nat) (stage : Stage α) : Program :=
  (stage.store.get? id).elim [] (·.program)

end Stage

end SpriteStage
