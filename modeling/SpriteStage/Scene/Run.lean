import SpriteStage.Engine.Schedule
import SpriteStage.Scene.Place
import SpriteStage.Sprite.View

namespace SpriteStage

/-- The end of a run. -/
structure Outcome (α : Type) where
  /-- Whether all programs ended before the time was up. -/
  settled : Bool
  views : List (View α)
  sprites : List (Sprite α)

def Outcome.toJson (o : Outcome Float) : Json :=
  .obj [("settled", .bool o.settled), ("views", .arr (o.views.map View.toJson)),
    ("sprites", .arr (o.sprites.map Sprite.toJson))]

variable {α : Type} [Scalar α]

/-- What can be seen of a session. -/
def Session.outcome (s : Session α) : Outcome α :=
  let sprites := s.stage.store.sprites
  ⟨s.isSettled, sprites.map Sprite.view, sprites⟩

namespace Scene

/-- A new session with the scene on its stage and its programs started: the flagged chains of its
    sprites, or all top-level chains. -/
def start (config : Config) (entropy : Nat) (all : Bool) (scene : Scene) :
    Except SceneFault (Session α) := do
  let fresh : Session α := .new config entropy
  let (ids, stage) ← scene.place fresh.stage
  let placed := { fresh with stage := stage }
  pure (if all then placed.runAll else ids.foldl (fun s id => s.run id) placed)

/-- The session after the programs of a scene have run, or after the limit in milliseconds. What is
    due exactly at the limit does not happen. -/
def run (config : Config) (entropy : Nat) (all : Bool) (limit : Nat) (scene : Scene) :
    Except SceneFault (Session α) := do
  let s ← scene.start config entropy all
  pure (s.runFor limit)

end Scene

end SpriteStage
