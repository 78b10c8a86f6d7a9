import SpriteStage.Number.Scalar
import SpriteStage.Program.Block
import SpriteStage.Text.Blank

namespace SpriteStage

/-- The kinds of sprites, each with a drawing of its own. -/
inductive SpriteKind where
  | cat
  | dog
  | ball
deriving DecidableEq, Repr, Inhabited

namespace SpriteKind

def name : SpriteKind → String
  | cat => "Cat"
  | dog => "Dog"
  | ball => "Ball"

def all : List SpriteKind := [cat, dog, ball]

/-- The kind with a name, in letters of any case. -/
def ofName? (name : String) : Option SpriteKind :=
  all.find? fun kind => Text.foldCase kind.name = Text.foldCase name

end SpriteKind

/-- A point of the stage; the second coordinate grows downwards. -/
structure Position (α : Type) where
  x : α
  y : α
deriving DecidableEq, Inhabited

/-- What a sprite shows in its bubble. -/
structure Speech where
  message : String
  durationMs : Float
  isThought : Bool
deriving Inhabited

namespace Speech

def cleared : Speech := ⟨"", 0, false⟩

def isVisible (s : Speech) : Bool := Number.isPositive s.durationMs

end Speech

/-- A glide that a sprite is shown to be in. -/
structure Animation where
  durationMs : Float

/-- The state of one sprite. -/
structure Sprite (α : Type) where
  id : Nat
  kind : SpriteKind
  position : Position α
  /-- Degrees, not reduced to one turn. -/
  rotation : α
  /-- What is added to the width and the height of the drawing. -/
  size : α
  speech : Speech
  animation : Option Animation
  isRunning : Bool
  program : Program

variable {α : Type} [Scalar α]

/-- The size that a fresh sprite has. -/
def SpriteKind.defaultSize : SpriteKind → α
  | cat | dog => Scalar.ofFloat (-30)
  | ball => Scalar.ofFloat (-10)

namespace Position

def ofFloats (x y : Float) : Position α :=
  ⟨Scalar.ofFloat x, Scalar.ofFloat y⟩

def origin : Position α := ofFloats 0 0

/-- Where fresh sprites stand. -/
def start : Position α := ofFloats 30 30

/-- The point at the fraction `t` of the way to another point. -/
def towards (origin target : Position α) (t : α) : Position α :=
  ⟨origin.x + (target.x - origin.x) * t, origin.y + (target.y - origin.y) * t⟩

end Position

namespace Sprite

/-- A new sprite without a program. -/
def fresh (id : Nat) (kind : SpriteKind) : Sprite α where
  id := id
  kind := kind
  position := .start
  rotation := Scalar.ofFloat 0
  size := kind.defaultSize
  speech := .cleared
  animation := none
  isRunning := false
  program := []

/-- The sprite as it was when new, with the program it has now. -/
def reset (s : Sprite α) : Sprite α :=
  { fresh s.id s.kind with program := s.program }

/-- The sprite at rest: no program of its own runs and no glide is shown. -/
def idle (s : Sprite α) : Sprite α :=
  { s with isRunning := false, animation := none }

end Sprite

end SpriteStage
