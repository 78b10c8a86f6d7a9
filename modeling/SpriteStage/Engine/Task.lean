import SpriteStage.Engine.Cursor
import SpriteStage.Engine.Delay
import SpriteStage.Stage.Basic

namespace SpriteStage

/-- How a chain came to its end. -/
inductive ChainEnd where
  | completed
  | runaway
  /-- The sprite is no longer there. -/
  | stopped
deriving DecidableEq, Repr

/-- What a chain does in its next step. -/
inductive Phase (α : Type) where
  /-- The next block is due. -/
  | dispatch
  /-- The next frame of a glide is due. -/
  | glide (origin target : Position α) (durationMs : Float) (started : Nat)
  /-- The chain is over and has to be signed off. -/
  | signOff (how : ChainEnd)

/-- What a chain has still to do. -/
structure ChainRun (α : Type) where
  cursor : Cursor
  phase : Phase α

/-- What a task has to do. -/
inductive Work (α : Type) where
  | chain (run : ChainRun α)
  /-- Wait for a delay and then clear the bubble; `armed` once the delay has begun. -/
  | clearSpeech (delay : Delay) (armed : Bool)

/-- A chain of blocks that runs on a sprite, or a timer that clears a bubble. A task acts in steps,
    each of which sees the stage alone and at once; between two steps it may sleep. A cancelled task
    does nothing. -/
structure Task (α : Type) where
  id : Nat
  sprite : Nat
  token : Token
  work : Work α
  /-- The time in milliseconds from which the task is due. -/
  wake : Nat
  /-- Of two tasks due at the same time, the one with the smaller stamp goes first. -/
  stamp : Nat

/-- How a chain goes on after a block. -/
inductive After (α : Type) where
  /-- With the next block after the step delay. -/
  | advance
  /-- Likewise, and a timer is to clear the bubble. -/
  | advanceAndClear (delay : Delay)
  | sleep (delay : Delay)
  | glide (origin target : Position α) (durationMs : Float)
  /-- At once, with copies of the block before this one. -/
  | repeatAbove (times : Float)
  | stop

variable {α : Type} [Scalar α]

namespace Stage

/-- The point for a block, drawn from the stream only if the block asks for one. -/
def drawFor (b : Block) (stage : Stage α) : Position α × Stage α :=
  if b.is .goToRandom then
    let ((x, y), random) := stage.random.point stage.config.randomRange
    (.ofFloats x y, { stage with random := random })
  else (.origin, stage)

/-- Carries out one block on a sprite. -/
def execute (id : Nat) (b : Block) (stage : Stage α) : Stage α × After α :=
  let (randomPoint, stage) := stage.drawFor b
  match stage.store.get? id with
  | none => (stage, .stop)
  | some sprite =>
    match b.dispatch sprite ⟨stage.pointer, randomPoint, stage.config.sayDisplayMs⟩ with
    | .update next => (stage.commit id fun _ => next, .advance)
    | .speakFor next clearAfterMs =>
      let stage := stage.commit id fun _ => next
      ({ stage with registry := stage.registry.ensure id },
        .advanceAndClear (Delay.ofMillis clearAfterMs))
    | .glide target durationMs =>
      (stage.commit id fun s => { s with animation := some ⟨durationMs⟩ },
        .glide sprite.position target durationMs)
    | .wait durationMs => (stage, .sleep (Delay.ofMillis durationMs))
    | .repeatAbove times => (stage, .repeatAbove times)
    | .pass => (stage, .advance)

/-- Signs a chain off; the last one of its sprite ends the run. -/
def signOff (id : Nat) (token : Token) (stage : Stage α) : Stage α :=
  let last := stage.registry.isLast id token
  let stage := { stage with registry := stage.registry.finishChain id token }
  if last then stage.commit id fun s => { s with isRunning := false } else stage

end Stage

/-- The part of a glide that is over after some milliseconds, unless it is all of it. A duration
    that is not a positive number is over at once. -/
def glideFraction? (durationMs : Float) (elapsed : Nat) : Option α :=
  if Number.isFinite durationMs && Number.isPositive durationMs then
    let t : α := Scalar.ofMillis elapsed / Scalar.ofFloat durationMs
    if Scalar.less t (Scalar.ofFloat 1) then some t else none
  else none

/-- What one step of a task leads to: the stage, what the task has still to do and how many
    milliseconds it sleeps before, and the delay of a timer that it starts. -/
structure StepResult (α : Type) where
  stage : Stage α
  next : Option (Work α × Nat)
  timer : Option Delay

namespace ChainRun

def goOn (stage : Stage α) (cursor : Cursor) (phase : Phase α) (pause : Nat)
    (timer : Option Delay) : StepResult α :=
  ⟨stage, some (.chain ⟨cursor, phase⟩, pause), timer⟩

/-- The pause before the next block; there is none behind the last one. -/
def pauseBefore (stage : Stage α) (cursor : Cursor) : Nat :=
  if cursor.rest.isEmpty then 0 else stage.config.stepDelayMs

/-- Dispatches the next block, or finds the chain at its end. -/
def stepDispatch (now id : Nat) (cursor : Cursor) (stage : Stage α) : StepResult α :=
  match cursor.advance stage.config.maxSteps with
  | .finished => goOn stage cursor (.signOff .completed) 0 none
  | .runaway => goOn stage cursor (.signOff .runaway) 0 none
  | .due b behind =>
    let limit := stage.config.maxSteps
    let pause := pauseBefore stage behind
    match stage.execute id b with
    | (stage, .advance) => goOn stage behind .dispatch pause none
    | (stage, .advanceAndClear delay) => goOn stage behind .dispatch pause (some delay)
    | (stage, .sleep delay) => goOn stage behind .dispatch delay.millis none
    | (stage, .glide origin target durationMs) =>
      goOn stage behind (.glide origin target durationMs now) 0 none
    | (stage, .repeatAbove times) =>
      goOn stage (behind.splice cursor.previous times limit) .dispatch 0 none
    | (stage, .stop) => goOn stage behind (.signOff .stopped) 0 none

/-- Draws the next frame of a glide, or the last one exactly on the target. -/
def stepGlide (now id : Nat) (cursor : Cursor) (origin target : Position α) (durationMs : Float)
    (started : Nat) (stage : Stage α) : StepResult α :=
  if stage.store.contains id then
    match glideFraction? durationMs (now - started) with
    | some t =>
      goOn (stage.commit id fun s => { s with position := origin.towards target t }) cursor
        (.glide origin target durationMs started) stage.config.frameIntervalMs none
    | none =>
      goOn (stage.commit id fun s => { s with animation := none, position := target }) cursor
        .dispatch (pauseBefore stage cursor) none
  else goOn stage cursor (.signOff .stopped) 0 none

def step (now id : Nat) (token : Token) (run : ChainRun α) (stage : Stage α) : StepResult α :=
  match run.phase with
  | .dispatch => stepDispatch now id run.cursor stage
  | .glide origin target durationMs started =>
    stepGlide now id run.cursor origin target durationMs started stage
  | .signOff _ => ⟨stage.signOff id token, none, none⟩

end ChainRun

namespace Task

/-- One step of a task at a time in milliseconds. -/
def step (now : Nat) (task : Task α) (stage : Stage α) : StepResult α :=
  if stage.registry.isCancelled task.token then ⟨stage, none, none⟩
  else
    match task.work with
    | .chain run => run.step now task.sprite task.token stage
    | .clearSpeech delay false => ⟨stage, some (.clearSpeech delay true, delay.millis), none⟩
    | .clearSpeech _ true =>
      ⟨stage.commit task.sprite fun s => { s with speech := .cleared }, none, none⟩

end Task

end SpriteStage
