import SpriteStage.Number.Decimal
import SpriteStage.Program.Field

namespace SpriteStage

/-- What the linter finds wrong with a block. -/
inductive Fault where
  /-- A block before this one has the same id. -/
  | duplicateId
  | unknownType (typeId : String)
  /-- A hat that follows another block. -/
  | onlyStarts (typeId : String)
  /-- A repeat at the start of a chain. -/
  | nothingToRepeat
  | missingField (name : String)
  | notANumber (name : String) (value : Json)
  | belowMinimum (name : String) (min number : Float)
  | aboveMaximum (name : String) (max number : Float)

def Fault.message : Fault → String
  | duplicateId => "Duplicate block id."
  | unknownType typeId => "Unknown block type '" ++ typeId ++ "'; it will be skipped."
  | onlyStarts typeId => "'" ++ typeId ++ "' can only start a chain."
  | nothingToRepeat => "'repeat' has no block above it to repeat."
  | missingField name => "Missing field '" ++ name ++ "'."
  | notANumber name value => "Field '" ++ name ++ "' is not a number (" ++ value.compact ++ ")."
  | belowMinimum name min number =>
    "Field '" ++ name ++ "' is below its minimum " ++ Number.messageLayout.text min ++ " ("
      ++ Number.messageLayout.text number ++ ")."
  | aboveMaximum name max number =>
    "Field '" ++ name ++ "' is above its maximum " ++ Number.messageLayout.text max ++ " ("
      ++ Number.messageLayout.text number ++ ")."

/-- A fault of the block with an id. The interpreter runs programs with warnings all the same. -/
structure Warning where
  blockId : String
  fault : Fault

def Warning.message (w : Warning) : String :=
  "Block '" ++ w.blockId ++ "': " ++ w.fault.message

namespace Lint

/-- The faults of a value in a numeric field. -/
def valueFaults (spec : FieldSpec) (value : Json) : List Fault :=
  let x := value.number
  if Number.isNaN x then [.notANumber spec.name value]
  else
    let below := spec.min?.filter fun min => Number.less x min
    let above := spec.max?.filter fun max => Number.less max x
    (below.map fun min => .belowMinimum spec.name min x).toList
      ++ (above.map fun max => .aboveMaximum spec.name max x).toList

/-- The faults of one declared field. A repeat without a count makes one copy, so the count may be
    missing. -/
def fieldFaults (b : Block) (kind : BlockKind) (spec : FieldSpec) : List Fault :=
  match b.field? spec.name with
  | none => if kind = .repeatAbove then [] else [.missingField spec.name]
  | some value => if spec.isNumber then valueFaults spec value else []

/-- The faults of a block apart from its id and its body. -/
def ownFaults (first : Bool) (b : Block) : List Fault :=
  match b.kind? with
  | none => [.unknownType b.typeId]
  | some kind =>
    (if !first && !kind.acceptsPrevious then [.onlyStarts b.typeId] else [])
      ++ (if first && kind = .repeatAbove then [.nothingToRepeat] else [])
      ++ kind.valueFields.flatMap (fieldFaults b kind)

/-- The ids met so far and the warnings they led to, in order. -/
structure Report where
  seen : List String
  warnings : List Warning

def Report.warn (b : Block) (faults : List Fault) (r : Report) : Report :=
  { r with warnings := r.warnings ++ faults.map (⟨b.id, ·⟩) }

/-- Meets the id of a block. -/
def Report.meet (b : Block) (r : Report) : Report :=
  if r.seen.contains b.id then r.warn b [.duplicateId] else { r with seen := b.id :: r.seen }

mutual

/-- Checks a block: its id, then the chain it encloses, then the block itself. -/
def block (first : Bool) (r : Report) : Block → Report
  | ⟨id, typeId, fields, body, extra⟩ =>
    let b : Block := ⟨id, typeId, fields, body, extra⟩
    (blocks true (r.meet b) body).warn b (ownFaults first b)

/-- Checks the blocks of a chain from one block on, which may be the first. -/
def blocks (first : Bool) (r : Report) : List Block → Report
  | [] => r
  | b :: rest => blocks false (block first r b) rest

end

end Lint

namespace Program

/-- The warnings for a program in the order of its blocks. -/
def lint (program : Program) : List Warning :=
  (program.foldl (fun r c => Lint.blocks true r c.toList) ⟨[], []⟩).warnings

def isClean (program : Program) : Bool :=
  program.lint.isEmpty

/-- The warnings as text, one on a line. -/
def lintText (program : Program) : String :=
  "\n".intercalate (program.lint.map Warning.message)

end Program

end SpriteStage
