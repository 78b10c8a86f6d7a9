import SpriteStage.Number.Literal
import SpriteStage.Sprite.Basic

namespace SpriteStage.Command

/-- What a command line asks for. The scene and the options may stand in any order; an option with a
    value takes it behind an equals sign or as the next word, and behind two dashes every word is
    the scene. -/
structure Arguments where
  scene : String
  config : Option String
  /-- Start every top-level chain, not only the flagged ones. -/
  runAll : Bool
  heroMode : Bool
  durationMs : Nat
  pointer : Option (Position Float)
  seed : Option Nat
  output : Option String

/-- What is wrong with a command line, or that it asks for help. -/
inductive UsageError where
  | help
  | missingScene
  | unknownArgument (word : String)
  | repeated (name : String)
  /-- A switch with a value. -/
  | unexpectedValue (name : String)
  /-- No value, or an empty path. -/
  | missingValue (name : String)
  | unreadableValue (name value : String)
deriving DecidableEq, Repr

def UsageError.message : UsageError → String
  | help => "usage: SCENE [--config FILE] [--run-all] [--hero-mode] [--duration-ms N] "
      ++ "[--pointer X,Y] [--seed N] [--output FILE]"
  | missingScene => "error: a scene is required"
  | unknownArgument word => "error: unexpected argument '" ++ word ++ "'"
  | repeated name => "error: '" ++ name ++ "' is given more than once"
  | unexpectedValue name => "error: '" ++ name ++ "' takes no value"
  | missingValue name => "error: '" ++ name ++ "' needs a value"
  | unreadableValue name value => "error: invalid value '" ++ value ++ "' for '" ++ name ++ "'"

/-- The options with a value. The scene is one of them, although it has no name of its own. -/
inductive Setting where
  | scene
  | config
  | duration
  | pointer
  | seed
  | output
deriving DecidableEq, Repr

/-- The options without a value. -/
inductive Switch where
  | runAll
  | heroMode
  | help
deriving DecidableEq, Repr

def Setting.name : Setting → String
  | scene => "SCENE"
  | config => "--config"
  | duration => "--duration-ms"
  | pointer => "--pointer"
  | seed => "--seed"
  | output => "--output"

def Switch.name : Switch → String
  | runAll => "--run-all"
  | heroMode => "--hero-mode"
  | help => "--help"

def settings : List Setting := [.config, .duration, .pointer, .seed, .output]

def switches : List Switch := [.runAll, .heroMode, .help]

/-- A setting whose value is still to come, or has come and is still to be read. -/
structure Pending where
  setting : Setting
  value : Option String

/-- The command line as far as it was read. -/
structure Progress where
  scene : Option String
  config : Option String
  runAll : Bool
  heroMode : Bool
  duration : Option Nat
  pointer : Option (Position Float)
  seed : Option Nat
  output : Option String
  /-- The scene was met. -/
  hasScene : Bool
  pending : Option Pending
  /-- Two dashes were met. -/
  wordsOnly : Bool

def Progress.start : Progress :=
  ⟨none, none, false, false, none, none, none, none, false, none, false⟩

/-- A point as two numbers with a comma between them and blanks around them. -/
def readPoint? (value : String) : Option (Position Float) := do
  let cs := value.toList
  let first := cs.takeWhile (· ≠ ',')
  guard (first.length < cs.length)
  let x ← Number.read? (Text.trim first)
  let y ← Number.read? (Text.trim (cs.drop (first.length + 1)))
  pure ⟨x, y⟩

/-- A seed of 32 bits; zero may have a minus sign. -/
def readSeed? (value : String) : Option Nat :=
  match value.toList with
  | '-' :: digits => (Number.readDigits? digits).filter (· = 0)
  | cs => Number.readNatural? (Nat.pow 2 32) cs

/-- Stores a value, which is given at most once. -/
def once {β : Type} (name : String) (present : Option β) (value : Except UsageError β) :
    Except UsageError (Option β) :=
  match present with
  | some _ => .error (.repeated name)
  | none => value.map some

namespace Progress

/-- Stores the value of a setting. -/
def store (p : Progress) (setting : Setting) (value : String) : Except UsageError Progress := do
  let name := setting.name
  let path : Except UsageError String :=
    if value.isEmpty then .error (.missingValue name) else .ok value
  let read {β : Type} (x : Option β) : Except UsageError β :=
    x.elim (.error (.unreadableValue name value)) .ok
  match setting with
  | .scene => pure { p with scene := ← once name p.scene path }
  | .config => pure { p with config := ← once name p.config path }
  | .duration =>
    let value := read (Number.readNatural? (Nat.pow 2 64) value.toList)
    pure { p with duration := ← once name p.duration value }
  | .pointer => pure { p with pointer := ← once name p.pointer (read (readPoint? value)) }
  | .seed => pure { p with seed := ← once name p.seed (read (readSeed? value)) }
  | .output => pure { p with output := ← once name p.output path }

/-- Reads the pending value. A value is read only when the next option or the scene comes, or at the
    end, so an unknown argument is reported before a value that cannot be read. -/
def resolve (p : Progress) : Except UsageError Progress :=
  match p.pending with
  | none => .ok p
  | some ⟨setting, none⟩ => .error (.missingValue setting.name)
  | some ⟨setting, some value⟩ => { p with pending := none }.store setting value

def setSwitch (switch : Switch) (p : Progress) : Except UsageError Progress :=
  let name := switch.name
  match switch with
  | .help => .error .help
  | .runAll => if p.runAll then .error (.repeated name) else .ok { p with runAll := true }
  | .heroMode => if p.heroMode then .error (.repeated name) else .ok { p with heroMode := true }

/-- Takes a word with two dashes before it, split at its equals sign. -/
def long (word name : String) (value : Option String) (p : Progress) :
    Except UsageError Progress :=
  match settings.find? (·.name = name), switches.find? (·.name = name) with
  | some setting, _ => do
    let p ← p.resolve
    match value with
    | some value => p.store setting value
    | none => pure { p with pending := some ⟨setting, none⟩ }
  | none, some switch =>
    if value.isSome then .error (.unexpectedValue name)
    else do setSwitch switch (← p.resolve)
  | none, none => .error (.unknownArgument word)

/-- Takes a word that stands for itself: the value that is waited for, or the scene. -/
def plain (word : String) (p : Progress) : Except UsageError Progress :=
  match p.pending, p.wordsOnly with
  | some ⟨setting, none⟩, false => .ok { p with pending := some ⟨setting, some word⟩ }
  | _, _ =>
    if p.hasScene then .error (.unknownArgument word)
    else do
      let p ← p.resolve
      pure { p with pending := some ⟨.scene, some word⟩, hasScene := true }

/-- Takes one word. -/
def take (p : Progress) (word : String) : Except UsageError Progress :=
  if p.wordsOnly then p.plain word
  else
    match word.toList with
    | ['-', '-'] => .ok { p with wordsOnly := true }
    | '-' :: '-' :: cs =>
      let name := cs.takeWhile (· ≠ '=')
      let value := match cs.drop name.length with
        | '=' :: value => some (String.ofList value)
        | _ => none
      p.long word (String.ofList ('-' :: '-' :: name)) value
    | ['-'] => p.plain word
    | '-' :: 'h' :: _ => do setSwitch .help (← p.resolve)
    | '-' :: _ => .error (.unknownArgument word)
    | _ => p.plain word

end Progress

/-- How long programs may run if the command line does not say. -/
def defaultDurationMs : Nat := 30000

/-- The arguments of a command line, without the name of the program. -/
def Arguments.read (words : List String) : Except UsageError Arguments := do
  let p ← words.foldlM Progress.take .start
  let p ← p.resolve
  let some scene := p.scene | throw .missingScene
  pure ⟨scene, p.config, p.runAll, p.heroMode, p.duration.getD defaultDurationMs, p.pointer,
    p.seed, p.output⟩

end SpriteStage.Command
