import SpriteStage.Sprite.Geometry

namespace SpriteStage

variable {α : Type} [Scalar α]

/-- The bubble of a sprite as it is drawn. -/
structure Tooltip where
  isVisible : Bool
  text : String
  isThought : Bool

/-- Everything the drawing side needs for one sprite. -/
structure View (α : Type) where
  id : Nat
  kind : SpriteKind
  position : Position α
  size : α
  rotation : α
  extent : Option (Extent α)
  tooltip : Tooltip

/-- The view of a sprite. -/
def Sprite.view (s : Sprite α) : View α :=
  let isDog := s.kind == .dog
  { id := s.id
    kind := s.kind
    position := s.position
    size := s.size
    rotation := if isDog then -s.rotation else s.rotation
    extent := if isDog then some s.extent else none
    tooltip := ⟨s.speech.isVisible, s.speech.message, s.speech.isThought⟩ }

end SpriteStage
