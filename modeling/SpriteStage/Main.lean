import SpriteStage.Command.Run

namespace SpriteStage

/-- The file at a path, if there is one. -/
def lookUp? (path : String) : IO (Option Command.File) := do
  try
    let real ← IO.FS.realPath path
    if ← real.isDir then pure none
    else if ← real.pathExists then
      let contents ← try (some <$> IO.FS.readFile real) catch _ => pure none
      pure (some ⟨real.toString, contents⟩)
    else pure none
  catch _ => pure none

def complain (message : String) : IO UInt32 := do
  IO.eprintln message
  pure 1

end SpriteStage

open SpriteStage Command in
/-- The command line program. It looks up the files that its arguments name, runs the command on
    them and prints or writes the outcome. -/
def main (words : List String) : IO UInt32 := do
  match Arguments.read words with
  | .error .help =>
    IO.println UsageError.help.message
    pure 0
  | .error problem =>
    IO.eprintln problem.message
    pure 2
  | .ok args =>
    let scene ← lookUp? args.scene
    let config ← match args.config with
      | some path => lookUp? path
      | none => pure none
    let files (path : String) : Option File :=
      if path = args.scene then scene else if some path = args.config then config else none
    match render files (← IO.rand 0 (Nat.pow 2 64 - 1)) args with
    | .error failure => complain failure.message
    | .ok text =>
      match args.output with
      | none =>
        IO.println text
        pure 0
      | some path =>
        try
          IO.FS.writeFile path text
          pure 0
        catch _ => complain (Failure.unwritable path).message
