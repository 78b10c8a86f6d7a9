import SpriteStage.Engine.Effect
import SpriteStage.Proofs.Number.Direction

namespace SpriteStage

open Number (isFinite Denotes)

/-- The least direction below zero that a full turn more is rounded to the full turn for. -/
def leastLostDirection : Float := Float.ofBits 0xbd20000000000000

theorem denotes_leastLostDirection : Denotes leastLostDirection (-1 / 2 ^ 45) :=
  ⟨⟨true, 2 ^ 52, -97⟩, rfl, by norm_num [Number.Binary.toRat]⟩

namespace Sprite

/-- The direction in which the center of a sprite sees a point, in degrees. -/
def bearing (s : Sprite Float) (p : Position Float) : Float :=
  Number.degrees (p.y - s.center.y) (p.x - s.center.x)

/-- The rotation that turns a sprite towards a point. -/
def heading (s : Sprite Float) (p : Position Float) : Float :=
  if s.bearing p < 0 then s.bearing p + 360 else s.bearing p

/-- Turning towards a point sets the rotation to the heading of the point and ends the glide that is
    shown. -/
theorem turnTowards_eq (s : Sprite Float) (p : Position Float) :
    Block.turnTowards p s = { s with rotation := s.heading p, animation := none } := by
  have hrotation : (Block.turnTowards p s).rotation = s.heading p := if_congr decide_eq_true_iff rfl rfl
  rw [← hrotation]
  rfl

/-- A heading is between zero and a full turn. -/
theorem heading_between (s : Sprite Float) (p : Position Float)
    (hx : isFinite (p.x - s.center.x) = true) (hy : isFinite (p.y - s.center.y) = true) :
    0 ≤ s.heading p ∧ s.heading p ≤ 360 ∧
      (s.heading p < 360 ↔ ¬(s.bearing p < 0 ∧ leastLostDirection ≤ s.bearing p)) := by
  obtain ⟨d, hd, hle⟩ := Number.denotes_degrees hy hx
  have hd : Denotes (s.bearing p) d := hd
  obtain ⟨hlow, hhigh⟩ := abs_le.1 hle
  rw [hd.lt_iff Number.denotes_zero, denotes_leastLostDirection.le_iff hd, heading]
  split
  case isTrue hneg =>
    have hneg := (hd.lt_iff Number.denotes_zero).1 hneg
    obtain ⟨r, hr, hhalf, hfull, hlast⟩ := Number.denotes_add_fullTurn hd hlow hneg
    rw [Number.denotes_zero.le_iff hr, hr.le_iff Number.denotes_fullTurn, hr.lt_iff Number.denotes_fullTurn, hlast]
    refine ⟨by linarith, hfull, ?_⟩
    rw [not_and, not_le]
    exact ⟨fun hlast _ => hlast, fun hlast => hlast hneg⟩
  case isFalse hnonneg =>
    rw [hd.lt_iff Number.denotes_zero, not_lt] at hnonneg
    rw [Number.denotes_zero.le_iff hd, hd.le_iff Number.denotes_fullTurn, hd.lt_iff Number.denotes_fullTurn]
    exact ⟨hnonneg, by linarith, iff_of_true (by linarith) fun h => absurd h.1 (not_lt.2 hnonneg)⟩

end Sprite

namespace Block

/-- A block that points at the pointer clears the animation of its sprite and gives it a rotation from zero to a
    full turn, whatever its rotation was. It is less than the full turn unless the direction of the pointer is
    below zero and not below `leastLostDirection`. -/
theorem pointing_stays_in_full_turn {b : Block} {s : Sprite Float} {context : Context Float}
    (hkind : b.kind? = some .pointTowards) (htarget : b.text "target" = mousePointer)
    (hx : isFinite (context.pointer.x - s.center.x) = true)
    (hy : isFinite (context.pointer.y - s.center.y) = true) :
    ∃ r : Float,
      (∀ rotation, b.dispatch { s with rotation := rotation } context =
        .update { s with rotation := r, animation := none }) ∧
      0 ≤ r ∧ r ≤ 360 ∧
      (r < 360 ↔ ¬(s.bearing context.pointer < 0 ∧ leastLostDirection ≤ s.bearing context.pointer)) := by
  refine ⟨s.heading context.pointer, ?_, s.heading_between context.pointer hx hy⟩
  intro rotation
  simp only [dispatch, hkind, if_pos htarget, Sprite.turnTowards_eq]
  rfl

/-- A block that points at the pointer. -/
def towardsPointer : Block := ⟨"p", "point_towards", [("target", .str mousePointer)], [], []⟩

theorem kind?_towardsPointer : towardsPointer.kind? = some .pointTowards := by decide

theorem text_towardsPointer : towardsPointer.text "target" = mousePointer := rfl

/-- The pointer is above a ball and to its left. -/
theorem pointing_stays_in_full_turn_aside :
    let ball : Sprite Float := .fresh 1 .ball
    let context : Context Float := ⟨⟨20, 10⟩, .origin, 0⟩
    (isFinite (context.pointer.x - ball.center.x) = true ∧ isFinite (context.pointer.y - ball.center.y) = true) ∧
      ∃ r : Float, (∀ rotation, towardsPointer.dispatch { ball with rotation := rotation } context =
        .update { ball with rotation := r }) ∧ 0 ≤ r ∧ r < 360 := by
  intro ball context
  have hx : isFinite (context.pointer.x - ball.center.x) = true := by decide +kernel
  have hy : isFinite (context.pointer.y - ball.center.y) = true := by decide +kernel
  obtain ⟨r, hdispatch, hnonneg, -, hless⟩ :=
    pointing_stays_in_full_turn kind?_towardsPointer text_towardsPointer hx hy
  exact ⟨⟨hx, hy⟩, r, hdispatch, hnonneg, hless.2 (by decide +kernel)⟩

/-- The pointer is so little above the center of a ball, on its right, that the ball is given the full turn. -/
theorem full_turn_towards_pointer :
    let ball : Sprite Float := .fresh 1 .ball
    let context : Context Float := ⟨⟨1050, 49.99999999999999⟩, .origin, 0⟩
    (isFinite (context.pointer.x - ball.center.x) = true ∧ isFinite (context.pointer.y - ball.center.y) = true) ∧
      towardsPointer.dispatch ball context = .update { ball with rotation := 360 } ∧ ¬(360 : Float) < 360 := by
  intro ball context
  refine ⟨⟨by decide +kernel, by decide +kernel⟩, ?_, by decide +kernel⟩
  have hrotation : ball.heading context.pointer = 360 := by decide +kernel
  simp only [dispatch, kind?_towardsPointer, if_pos text_towardsPointer, Sprite.turnTowards_eq, hrotation]
  rfl

end Block

end SpriteStage
