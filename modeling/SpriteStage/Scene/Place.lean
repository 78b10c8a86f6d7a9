import SpriteStage.Scene.Basic
import SpriteStage.Stage.Basic

namespace SpriteStage.Scene

variable {α : Type} [Scalar α]

/-- Applies a change if there is a value for it. -/
def whenGiven {β σ : Type} (value : Option β) (change : β → σ → σ) (state : σ) : σ :=
  match value with
  | none => state
  | some x => change x state

/-- Adds one sprite of a kind and gives it what the scene says about it. -/
def placeSprite (s : SceneSprite) (kind : SpriteKind) (stage : Stage α) : Stage α :=
  let id := stage.store.nextId
  let fresh : α := kind.defaultSize
  let given := stage.add kind
    |> whenGiven s.position (fun p => Stage.moveTo id (.ofFloats p.x p.y))
    |> whenGiven s.rotation (fun r => Stage.setRotation id (Scalar.ofFloat r))
    |> whenGiven s.size (fun size => Stage.changeSize id (Scalar.ofFloat size - fresh))
  match s.program with
  | .null => given
  | workspace => given.setProgram id (Program.ofExport workspace)

/-- Adds the sprites in order, the first of them with the given index, and returns their ids. A sprite of
    unknown kind stops it half-way. -/
def placeSprites (index : Nat) : List SceneSprite → Stage α → Except SceneFault (List Nat) × Stage α
  | [], stage => (.ok [], stage)
  | s :: rest, stage =>
    match s.kind? with
    | none => (.error (.unknownKind index s.kindName), stage)
    | some kind =>
      let (ids, placed) := placeSprites (index + 1) rest (placeSprite s kind stage)
      (ids.map (stage.store.nextId :: ·), placed)

/-- Puts a scene on a stage. Returns the ids of its sprites or what is wrong with the scene, and the stage
    in either case. Hero Mode is switched on only when every sprite has its place, so overlaps of the first
    layout count as new contacts. -/
def apply (scene : Scene) (stage : Stage α) : Except SceneFault (List Nat) × Stage α :=
  match scene.fault? with
  | some fault => (.error fault, stage)
  | none =>
    match placeSprites 0 scene.sprites stage with
    | (.error fault, placed) => (.error fault, placed)
    | (.ok ids, placed) =>
      let pointed := whenGiven scene.pointer
        (fun p => Stage.movePointer (.ofFloats p.x p.y)) placed
      (.ok ids, if scene.heroMode then pointed.switchHero true else pointed)

/-- The ids of the sprites of a scene and the stage with the scene on it, if it can be put there. -/
def place (scene : Scene) (stage : Stage α) : Except SceneFault (List Nat × Stage α) :=
  let (ids, placed) := scene.apply stage
  ids.map (·, placed)

end SpriteStage.Scene
