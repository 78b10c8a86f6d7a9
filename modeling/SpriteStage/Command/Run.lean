import SpriteStage.Command.Arguments
import SpriteStage.Scene.Run
import SpriteStage.Toml.Document

namespace SpriteStage.Command

/-- A file as far as it matters here. -/
structure File where
  /-- Its absolute path without links. -/
  path : String
  /-- Its text, unless it cannot be read as one. -/
  contents : Option String

/-- Why the command gives up. -/
inductive Failure where
  | notFound (path : String)
  | unreadableConfig (path : String)
  | invalidConfig (path : String)
  | unreadableScene (path : String)
  | invalidScene (path : String)
  | faultyScene (fault : SceneFault)
  | unwritable (path : String)
deriving DecidableEq, Repr

/-- A path as it is shown: without the mark of a verbatim path. -/
def shownPath (path : String) : String :=
  match path.toList with
  | '\\' :: '\\' :: '?' :: '\\' :: rest => String.ofList rest
  | _ => path

def Failure.message : Failure → String
  | notFound path => "Input file not found: '" ++ path ++ "'."
  | unreadableConfig path => "Failed to read config '" ++ path ++ "'."
  | invalidConfig path => "Invalid config '" ++ path ++ "'."
  | unreadableScene path => "Failed to read scene '" ++ path ++ "'."
  | invalidScene path => "Invalid scene '" ++ path ++ "'."
  | faultyScene fault => fault.message
  | unwritable path => "Failed to write '" ++ shownPath path ++ "'."

/-- The settings in a TOML document. -/
def readConfig? (text : String) : Option Config :=
  ((Toml.source? text).bind Config.ofSource?).map Config.sanitized

/-- A file that has to be there. -/
def require (files : String → Option File) (path : String) : Except Failure File :=
  (files path).elim (.error (.notFound path)) .ok

/-- The settings of the command line: those of its settings file with its own seed. -/
def loadConfig (files : String → Option File) (args : Arguments) : Except Failure Config := do
  let config ← match args.config with
    | none => pure Config.default
    | some path => do
      let file ← require files path
      let some text := file.contents | throw (.unreadableConfig file.path)
      (readConfig? text).elim (throw (.invalidConfig file.path)) pure
  pure { config with seed := args.seed.or config.seed }

/-- The scene of the command line, with Hero Mode and the pointer as it says. -/
def loadScene (files : String → Option File) (args : Arguments) : Except Failure Scene := do
  let file ← require files args.scene
  let some text := file.contents | throw (.unreadableScene file.path)
  match Scene.read text with
  | .error _ => throw (.invalidScene file.path)
  | .ok scene =>
    pure { scene with
      heroMode := scene.heroMode || args.heroMode
      pointer := args.pointer.or scene.pointer }

/-- The text of the outcome of a command. -/
def render (files : String → Option File) (entropy : Nat) (args : Arguments) :
    Except Failure String := do
  let config ← loadConfig files args
  let scene ← loadScene files args
  match scene.run config entropy args.runAll args.durationMs with
  | .error fault => throw (.faultyScene fault)
  | .ok session => pure (Session.outcome (session : Session Float)).toJson.pretty

end SpriteStage.Command
