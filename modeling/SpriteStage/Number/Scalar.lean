import SpriteStage.Number.Angle

namespace SpriteStage

/-- A number system for positions, rotations and sizes. -/
class Scalar (α : Type) extends Add α, Sub α, Mul α, Div α, Neg α where
  /-- The quantity that a number in a program stands for. -/
  ofFloat : Float → α
  /-- A whole number of milliseconds. -/
  ofMillis : Nat → α
  less : α → α → Bool
  /-- The direction of a vector with the given second and first components, in degrees between minus
      and plus half a turn. -/
  degrees : α → α → α

/-- Doubles. Milliseconds are counted through seconds and nanoseconds, each rounded on its own. -/
instance : Scalar Float where
  ofFloat := id
  ofMillis ms :=
    let seconds := Number.ofInt (ms / 1000 : Nat)
    let nanos := Number.ofInt (ms % 1000 * 1000000 : Nat)
    (seconds + nanos / 1e9) * 1000
  less x y := x < y
  degrees := Number.degrees

end SpriteStage
