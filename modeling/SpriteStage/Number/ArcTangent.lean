import SpriteStage.Number.Fused
import SpriteStage.Number.ArcTangentNodes

namespace SpriteStage.Number

/-- A quantity in two doubles: the nearest one and what it leaves out. -/
structure Sharp where
  near : Float
  rest : Float

/-- The quotient of two magnitudes. What the first division leaves out is found by taking the
    product back with its own rounding error. -/
def Sharp.quotient (small large : Float) : Sharp :=
  let near := small / large
  let product := near * large
  ⟨near, ((small - product) - multiplyAdd near large (-product)) / large⟩

/-- A quarter of the circle. -/
def rightAngle : Sharp := ⟨.ofBits 0x3ff921fb54442d18, .ofBits 0x3c91a62633145c07⟩

/-- Half of the circle. -/
def straightAngle : Sharp := ⟨.ofBits 0x400921fb54442d18, .ofBits 0x3ca1a62633145c07⟩

/-- The arc tangent of a small quotient, less the quotient itself, divided by the cube of the
    quotient: a polynomial in the square. -/
def arcTangentSeries (square : Float) : Float :=
  polynomial square
    [.ofBits 0xbfd5555555555555, .ofBits 0x3fc99999999997fd, .ofBits 0xbfc24924923f7603,
      .ofBits 0x3fbc71c6e5129a3b, .ofBits 0xbfb7458022b13c25, .ofBits 0x3fb375f08b31cbce]

/-- The node for a quotient of at most one; there is none below one sixteenth. -/
def nodeFor? (quotient : Float) : Option ArcTangentNode :=
  match value quotient with
  | .finite b =>
    if quotient < 0.0625 then none else arcTangentNodes[b.roundTimes 256 - 16]?
  | _ => none

/-- The arc tangent of a quotient of at most one. -/
def arcTangent (quotient : Sharp) : Float :=
  match nodeFor? quotient.near with
  | none =>
    let square := quotient.near * quotient.near
    quotient.near +
      multiplyAdd (quotient.near * square) (arcTangentSeries square) quotient.rest
  | some node =>
    let offset := quotient.near - node.point
    let distance := offset + quotient.rest
    let missed :=
      if quotient.rest.abs < offset.abs then (offset - distance) + quotient.rest
      else (quotient.rest - distance) + offset
    let curve := polynomial distance [node.second, node.third, node.fourth, node.fifth]
    multiplyAdd distance node.first
      (multiplyAdd missed node.first (distance * distance * curve)) + node.value

/-- The angle beside an axis by the arc tangent of a quotient of at most one: ahead of the axis when
    `side` is one, behind it when `side` is minus one. -/
def angleBeside (axis : Sharp) (side : Float) (quotient : Sharp) : Float :=
  match nodeFor? quotient.near with
  | none =>
    let square := quotient.near * quotient.near
    let bend := quotient.near * square * arcTangentSeries square
    let straight := axis.near + side * quotient.near
    let missed := (axis.near - straight) + side * quotient.near
    (missed + axis.rest + side * quotient.rest + side * bend) + straight
  | some node =>
    let distance := (quotient.near - node.point) + quotient.rest
    let slope :=
      polynomial distance [node.first, node.second, node.third, node.fourth, node.fifth]
    (axis.near + side * node.value) + multiplyAdd (side * distance) slope axis.rest

end SpriteStage.Number
