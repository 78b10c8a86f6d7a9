import SpriteStage.Sprite.Basic

namespace SpriteStage

variable {α : Type} [Scalar α]

/-- Width and height. -/
structure Extent (α : Type) where
  width : α
  height : α

/-- The extent of the drawing before the size is added. -/
def SpriteKind.baseExtent : SpriteKind → Extent α
  | cat | dog => ⟨Scalar.ofFloat 95.17898101806641, Scalar.ofFloat 100.04156036376953⟩
  | ball => ⟨Scalar.ofFloat 50, Scalar.ofFloat 50⟩

/-- A rectangle with sides along the axes. -/
structure Box (α : Type) where
  left : α
  top : α
  right : α
  bottom : α

/-- Two boxes share a point; touching counts. A side that is not a number separates nothing. -/
def Box.overlaps (a b : Box α) : Bool :=
  !(Scalar.less a.right b.left || Scalar.less b.right a.left || Scalar.less a.bottom b.top
    || Scalar.less b.bottom a.top)

namespace Sprite

def extent (s : Sprite α) : Extent α :=
  let base : Extent α := s.kind.baseExtent
  ⟨base.width + s.size, base.height + s.size⟩

def box (s : Sprite α) : Box α :=
  let e := s.extent
  ⟨s.position.x, s.position.y, s.position.x + e.width, s.position.y + e.height⟩

def center (s : Sprite α) : Position α :=
  let e := s.extent
  let two : α := Scalar.ofFloat 2
  ⟨s.position.x + e.width / two, s.position.y + e.height / two⟩

end Sprite

end SpriteStage
