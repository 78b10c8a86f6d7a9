import SpriteStage.Json.Reader
import SpriteStage.Program.Export
import SpriteStage.Sprite.Codec

namespace SpriteStage

/-- What a scene says of one sprite. What it leaves out is as on a new sprite. -/
structure SceneSprite where
  /-- The kind by its name, in letters of any case. -/
  kindName : String
  position : Option (Position Float)
  rotation : Option Float
  /-- The size itself, not a change of it. -/
  size : Option Float
  /-- An export of the editor, or null for no program. -/
  program : Json

/-- The sprites that a stage starts with, whether they trade, and where the pointer is. -/
structure Scene where
  sprites : List SceneSprite
  heroMode : Bool
  pointer : Option (Position Float)

/-- What is wrong with a scene. Sprites are counted from zero. -/
inductive SceneFault where
  | noSprites
  | unknownKind (index : Nat) (name : String)
  | invalidProgram (index : Nat)
deriving DecidableEq, Repr

def SceneFault.message : SceneFault → String
  | noSprites => "Scene defines no sprites."
  | unknownKind index name =>
    "Sprite #" ++ toString index ++ " has unknown type '" ++ name
      ++ "' (expected Cat, Dog or Ball)."
  | invalidProgram index =>
    "Sprite #" ++ toString index
      ++ " has a program that is neither a block list nor a workspace export."

/-- The value is a program of a scene: null, a list, or a workspace that holds a list under `blocks`
    twice. -/
def Json.isProgram : Json → Bool
  | .null => true
  | other => other.isArray || ((other.get? "blocks").bind (·.get? "blocks")).any Json.isArray

namespace SceneSprite

def kind? (s : SceneSprite) : Option SpriteKind :=
  SpriteKind.ofName? s.kindName

/-- What is wrong with the sprite at an index, its kind before its program. -/
def fault? (index : Nat) (s : SceneSprite) : Option SceneFault :=
  if s.kind?.isNone then some (.unknownKind index s.kindName)
  else if !s.program.isProgram then some (.invalidProgram index)
  else none

def fieldNames : List String := ["type", "position", "rotation", "size", "program"]

/-- A sprite from a document. Everything but the kind may be left out or null. -/
def ofSource? (document : Source) : Option SceneSprite := do
  let r ← document.record? fieldNames
  let optional {β : Type} (name : String) (read : Source → Option β) :=
    r.withDefault? name none (Source.nullable? read)
  pure {
    kindName := ← r.required? "type" Source.text?
    position := ← optional "position" Position.ofSource?
    rotation := ← optional "rotation" Source.float?
    size := ← optional "size" Source.float?
    program := ← r.withDefault? "program" .null Source.toJson? }

end SceneSprite

namespace Scene

/-- The first fault in the sprites of a scene, from an index on. -/
def firstFault? (index : Nat) : List SceneSprite → Option SceneFault
  | [] => none
  | s :: rest => (s.fault? index).or (firstFault? (index + 1) rest)

/-- What is wrong with the scene, if anything. -/
def fault? (scene : Scene) : Option SceneFault :=
  if scene.sprites.isEmpty then some .noSprites else firstFault? 0 scene.sprites

def ofSource? (document : Source) : Option Scene := do
  let r ← document.record? ["sprites", "hero_mode", "pointer"]
  pure {
    sprites := ← r.withDefault? "sprites" [] (Source.list? SceneSprite.ofSource?)
    heroMode := ← r.withDefault? "hero_mode" false Source.bool?
    pointer := ← r.withDefault? "pointer" none (Source.nullable? Position.ofSource?) }

/-- Why a text holds no scene. -/
inductive ReadError where
  /-- It is not a JSON document of the right shape. -/
  | unreadable
  | faulty (fault : SceneFault)
deriving DecidableEq, Repr

/-- The scene in a text. Chains nest two levels for each block, so the nesting is not limited. -/
def read (text : String) : Except ReadError Scene :=
  match (Json.source? none text).bind ofSource? with
  | none => .error .unreadable
  | some scene =>
    match scene.fault? with
    | some fault => .error (.faulty fault)
    | none => .ok scene

end Scene

end SpriteStage
