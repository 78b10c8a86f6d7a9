import SpriteStage.Json.Record
import SpriteStage.Sprite.Codec

namespace SpriteStage

/-- The settings of the interpreter: its delays, its limits and the seed of its random positions. -/
structure Config where
  /-- The pause between a block that acts at once and its successor. -/
  stepDelayMs : Nat
  /-- The time between two frames of a glide. -/
  frameIntervalMs : Nat
  /-- How long a bubble without a time of its own claims to be shown. -/
  sayDisplayMs : Float
  /-- Random positions have both coordinates below this. -/
  randomRange : Float
  /-- How many blocks a chain may dispatch. -/
  maxSteps : Nat
  seed : Option Nat

namespace Config

def default : Config :=
  { stepDelayMs := 10, frameIntervalMs := 16, sayDisplayMs := 100, randomRange := 400,
    maxSteps := 10000, seed := none }

/-- The settings with the values that would stall a stage replaced: frames take at least one
    millisecond, chains dispatch at least one block, and a random range is a number. -/
def sanitized (c : Config) : Config :=
  { c with
    frameIntervalMs := max c.frameIntervalMs 1
    maxSteps := max c.maxSteps 1
    randomRange :=
      if !Number.isFinite c.randomRange || Number.less c.randomRange 0 then 0 else c.randomRange }

def fieldNames : List String :=
  ["step_delay_ms", "frame_interval_ms", "say_display_ms", "random_range", "max_steps",
    "random_seed"]

/-- Settings from a document, in which any of them may be left out. -/
def ofSource? (document : Source) : Option Config := do
  let r ← document.record? fieldNames
  let natural := Source.natural? (Nat.pow 2 64)
  let seed := Source.nullable? (Source.natural? (Nat.pow 2 32))
  pure {
    stepDelayMs := ← r.withDefault? "step_delay_ms" default.stepDelayMs natural
    frameIntervalMs := ← r.withDefault? "frame_interval_ms" default.frameIntervalMs natural
    sayDisplayMs := ← r.withDefault? "say_display_ms" default.sayDisplayMs Source.float?
    randomRange := ← r.withDefault? "random_range" default.randomRange Source.float?
    maxSteps := ← r.withDefault? "max_steps" default.maxSteps natural
    seed := ← r.withDefault? "random_seed" default.seed seed }

def toJson (c : Config) : Json :=
  .obj [("step_delay_ms", .int c.stepDelayMs), ("frame_interval_ms", .int c.frameIntervalMs),
    ("say_display_ms", .ofFloat c.sayDisplayMs), ("random_range", .ofFloat c.randomRange),
    ("max_steps", .int c.maxSteps), ("random_seed", c.seed.elim .null fun seed => .int seed)]

end Config

end SpriteStage
