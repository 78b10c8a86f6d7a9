import SpriteStage.Program.Codec
import SpriteStage.Sprite.View

namespace SpriteStage

/-- A double in a document; infinities and NaN are written as null. -/
def Json.ofFloat (x : Float) : Json :=
  if Number.isFinite x then .double x else .null

namespace Position

def toJson (p : Position Float) : Json :=
  .obj [("x", .ofFloat p.x), ("y", .ofFloat p.y)]

def ofSource? (document : Source) : Option (Position Float) := do
  let r ← document.record? ["x", "y"]
  pure ⟨← r.required? "x" Source.float?, ← r.required? "y" Source.float?⟩

end Position

namespace Speech

def toJson (s : Speech) : Json :=
  .obj [("message", .str s.message), ("duration_ms", .ofFloat s.durationMs),
    ("is_thought", .bool s.isThought)]

def ofSource? (document : Source) : Option Speech := do
  let r ← document.record? ["message", "duration_ms", "is_thought"]
  pure ⟨← r.required? "message" Source.text?, ← r.required? "duration_ms" Source.float?,
    ← r.required? "is_thought" Source.bool?⟩

end Speech

namespace Animation

/-- Documents name the kind of animation, although glides are the only one. -/
def toJson (a : Animation) : Json :=
  .obj [("kind", .str "glide"), ("duration_ms", .ofFloat a.durationMs)]

def ofSource? (document : Source) : Option Animation := do
  let r ← document.record? ["kind", "duration_ms"]
  let () ← r.required? "kind" (Source.choice? [("glide", ())])
  pure ⟨← r.required? "duration_ms" Source.float?⟩

end Animation

def SpriteKind.ofSource? (document : Source) : Option SpriteKind :=
  document.choice? (all.map fun kind => (kind.name, kind))

namespace Sprite

def toJson (s : Sprite Float) : Json :=
  .obj [("id", .int s.id), ("type", .str s.kind.name), ("position", s.position.toJson),
    ("rotation", .ofFloat s.rotation), ("size", .ofFloat s.size), ("text", s.speech.toJson),
    ("active_animation", s.animation.elim .null Animation.toJson),
    ("is_running_program", .bool s.isRunning), ("blocks", Program.toJson s.program)]

def fieldNames : List String :=
  ["id", "type", "position", "rotation", "size", "text", "active_animation", "is_running_program",
    "blocks"]

def ofSource? (document : Source) : Option (Sprite Float) := do
  let r ← document.record? fieldNames
  pure {
    id := ← r.required? "id" (Source.natural? (Nat.pow 2 32))
    kind := ← r.required? "type" SpriteKind.ofSource?
    position := ← r.required? "position" Position.ofSource?
    rotation := ← r.required? "rotation" Source.float?
    size := ← r.required? "size" Source.float?
    speech := ← r.required? "text" Speech.ofSource?
    animation := ← r.nullable? "active_animation" Animation.ofSource?
    isRunning := ← r.required? "is_running_program" Source.bool?
    program := ← r.required? "blocks" (Source.list? Chain.ofSource?) }

end Sprite

/-- A view as a document; an extent that is left to the drawing side is left out. -/
def View.toJson (v : View Float) : Json :=
  let sized : Entries Json := match v.extent with
    | none => []
    | some e => [("width", .ofFloat e.width), ("height", .ofFloat e.height)]
  .obj ([("id", .int v.id), ("type", .str v.kind.name), ("position", v.position.toJson),
      ("size", .ofFloat v.size), ("rotation", .ofFloat v.rotation)]
    ++ sized
    ++ [("tooltip", .obj [("visible", .bool v.tooltip.isVisible), ("text", .str v.tooltip.text),
      ("thought", .bool v.tooltip.isThought)])])

end SpriteStage
