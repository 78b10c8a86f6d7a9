import SpriteStage.Number.ArcTangent

namespace SpriteStage.Number

/-- The angle, without its sign, of a vector whose components differ by less than 57 binary places.
    In units of the finer component's last place both are exact doubles. It is counted from the
    axis that the vector is nearest to. -/
def nearbyAngle (second first : Binary) : Float :=
  let unit := min second.exponent first.exponent
  let rise := (second.scaled unit).natAbs
  let run := (first.scaled unit).natAbs
  let overRun := Sharp.quotient (ofInt rise) (ofInt run)
  let overRise := Sharp.quotient (ofInt run) (ofInt rise)
  if first.negative then
    if run < rise then angleBeside rightAngle 1 overRise
    else angleBeside straightAngle (-1) overRun
  else if rise < run then arcTangent overRun
  else angleBeside rightAngle (-1) overRise

/-- The magnitude of an angle in the range that is documented for the arc tangent of two numbers, from
    minus to plus half the circle. The range is part of the definition, and holds whatever the sums behind
    an angle are rounded to. -/
def upToStraight (magnitude : Float) : Float :=
  if 0 ≤ magnitude && magnitude ≤ straightAngle.near then magnitude else straightAngle.near

/-- The angle in radians of a vector, in the half circle of the sign of its second component. Zero
    components keep their sign, and infinite ones stand for the four axes and diagonals. A vector
    that leaves an axis by less than the last place of the angle has the angle of the axis, and near
    the positive first axis that angle is the quotient of the components. -/
def angle (second first : Float) : Float :=
  match value second, value first with
  | .nan, _ => nan
  | _, .nan => nan
  | .infinite below, .infinite back =>
    let diagonal := if back then Float.ofBits 0x4002d97c7f3321d2 else Float.ofBits 0x3fe921fb54442d18
    if below then -diagonal else diagonal
  | .infinite below, .finite _ => if below then -rightAngle.near else rightAngle.near
  | .finite y, .infinite back =>
    let axis := if back then straightAngle.near else 0
    if y.negative then -axis else axis
  | .finite y, .finite x =>
    let magnitude :=
      if y.mantissa = 0 then if x.negative then straightAngle.near else 0
      else if x.mantissa = 0 then rightAngle.near
      else if 57 ≤ y.exponent - x.exponent then rightAngle.near
      else if 57 ≤ x.exponent - y.exponent then
        if x.negative then straightAngle.near else (second / first).abs
      else nearbyAngle y x
    if y.negative then -upToStraight magnitude else upToStraight magnitude

/-- The size of one radian in degrees, rounded to a double. -/
def degreesPerRadian : Float := Float.ofBits 0x404ca5dc1a63c1f8

/-- The angle of a vector in degrees, between minus and plus half a turn. -/
def degrees (second first : Float) : Float :=
  angle second first * degreesPerRadian

end SpriteStage.Number
