import SpriteStage.Program.Field
import SpriteStage.Sprite.Geometry

namespace SpriteStage

/-- What a block sees of the stage beside its sprite. -/
structure Context (α : Type) where
  pointer : Position α
  /-- Where a block goes that picks a random position. -/
  randomPoint : Position α
  /-- The time that a bubble without a time of its own claims to be shown. -/
  sayDisplayMs : Float

/-- What a block asks for. -/
inductive Effect (α : Type) where
  /-- The sprite takes this state. -/
  | update (sprite : Sprite α)
  /-- The sprite takes this state, and its bubble is cleared after the delay while the chain goes
      on. -/
  | speakFor (sprite : Sprite α) (clearAfterMs : Float)
  | glide (target : Position α) (durationMs : Float)
  | wait (durationMs : Float)
  | repeatAbove (times : Float)
  /-- Nothing; the chain goes on. -/
  | pass

namespace Block

/-- How often a repeat copies the block above it. A number counts as it is, even zero; any other
    value that is not truthy means one copy. -/
def repeatTimes (b : Block) : Float :=
  match b.field? "TIMES" with
  | none => 1
  | some value => if value.isNumber || value.isTruthy then value.number else 1

/-- How long a wait lasts. A value that is not truthy means one second; unreadable text is NaN. -/
def waitSeconds (b : Block) : Float :=
  match b.field? "seconds" with
  | none => 1
  | some value => if value.isTruthy then value.number else 1

variable {α : Type} [Scalar α]

def scalar (b : Block) (name : String) : α :=
  Scalar.ofFloat (b.number name)

/-- The point that a block names by its coordinates. -/
def target (b : Block) : Position α :=
  ⟨b.scalar "x_position", b.scalar "y_position"⟩

/-- The sprite with what the block says in its bubble. -/
def speak (b : Block) (durationMs : Float) (isThought : Bool) (s : Sprite α) : Sprite α :=
  { s with speech := ⟨b.text "message", durationMs, isThought⟩ }

/-- The sprite turned from its center towards a point, with an angle below zero replaced by the same
    angle a full turn further. The glide it shows ends. -/
def turnTowards (p : Position α) (s : Sprite α) : Sprite α :=
  let center := s.center
  let angle := Scalar.degrees (p.y - center.y) (p.x - center.x)
  let zero : α := Scalar.ofFloat 0
  let turn : α := Scalar.ofFloat 360
  { s with rotation := if Scalar.less angle zero then angle + turn else angle, animation := none }

/-- The effect of a block on a sprite. -/
def dispatch (b : Block) (s : Sprite α) (context : Context α) : Effect α :=
  let timedSpeech (isThought : Bool) : Effect α :=
    let durationMs := b.number "seconds" * 1000
    .speakFor (b.speak durationMs isThought s) durationMs
  match b.kind? with
  | none | some .whenFlagClicked => .pass
  | some .goTo => .update { s with position := b.target }
  | some .goToRandom => .update { s with position := context.randomPoint }
  | some .clockwise => .update { s with rotation := s.rotation + b.scalar "angle" }
  | some .anticlockwise => .update { s with rotation := s.rotation - b.scalar "angle" }
  | some .move =>
    .update { s with position := { s.position with x := s.position.x + b.scalar "x_position" } }
  | some .changeXBy =>
    .update { s with position := { s.position with x := s.position.x + b.scalar "delta_x" } }
  | some .changeYBy =>
    .update { s with position := { s.position with y := s.position.y + b.scalar "delta_y" } }
  | some .setX => .update { s with position := { s.position with x := b.scalar "x_position" } }
  | some .setY => .update { s with position := { s.position with y := b.scalar "y_position" } }
  | some .glide => .glide b.target (b.number "seconds" * 1000)
  | some .pointTowards =>
    if b.text "target" = mousePointer then .update (turnTowards context.pointer s) else .pass
  | some .say => .update (b.speak context.sayDisplayMs false s)
  | some .think => .update (b.speak context.sayDisplayMs true s)
  | some .sayForSeconds => timedSpeech false
  | some .thinkForSeconds => timedSpeech true
  | some .changeSize => .update { s with size := s.size + b.scalar "size" }
  | some .wait => .wait (b.waitSeconds * 1000)
  | some .repeatAbove => .repeatAbove b.repeatTimes

end Block

end SpriteStage
