import SpriteStage.Number.Binary

namespace SpriteStage

/-- A span of time in nanoseconds. -/
structure Delay where
  nanos : Nat
deriving DecidableEq, Repr

namespace Delay

/-- The delay of a figure in milliseconds: a thousandth of it as seconds, rounded to the nearest
    nanosecond with a half going to the even neighbour. What is not a positive number, or has 64-bit
    seconds overflow, is no delay at all. -/
def ofMillis (ms : Float) : Delay :=
  if Number.isFinite ms && Number.isPositive ms then
    match Number.value (ms / 1000) with
    | .finite seconds =>
      let nanos := seconds.roundTimes 1000000000
      if nanos < Nat.pow 2 64 * 1000000000 then ⟨nanos⟩ else ⟨0⟩
    | _ => ⟨0⟩
  else ⟨0⟩

def ofWholeMillis (ms : Nat) : Delay := ⟨ms * 1000000⟩

/-- The whole milliseconds until a delay is over. -/
def millis (d : Delay) : Nat :=
  (d.nanos + 999999) / 1000000

def seconds (d : Delay) : Nat := d.nanos / 1000000000

/-- The nanoseconds beyond the whole seconds. -/
def subsecond (d : Delay) : Nat := d.nanos % 1000000000

end Delay

end SpriteStage
