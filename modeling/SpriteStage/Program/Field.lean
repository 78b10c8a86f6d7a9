import SpriteStage.Number.Literal
import SpriteStage.Program.Export

namespace SpriteStage

namespace Json

/-- The value as a number. -/
def number : Json → Float
  | .null => 0
  | .bool b => if b then 1 else 0
  | .int i => Number.ofInt i
  | .double x => x
  | .str s =>
    let trimmed := Text.trim s.toList
    if trimmed.isEmpty then 0 else (Number.read? trimmed).getD Number.nan
  | .arr _ => Number.nan
  | .obj _ => Number.nan

/-- Null, false, zero, NaN and the empty string are not truthy. -/
def isTruthy : Json → Bool
  | .null => false
  | .bool b => b
  | .int i => i != 0
  | .double x => !Number.isZero x && !Number.isNaN x
  | .str s => !s.isEmpty
  | .arr _ => true
  | .obj _ => true

end Json

namespace Block

def field? (b : Block) (name : String) : Option Json :=
  Entries.get? b.fields name

def number (b : Block) (name : String) : Float :=
  match b.field? name with
  | none => Number.nan
  | some value => value.number

def text (b : Block) (name : String) : String :=
  match b.field? name with
  | none => ""
  | some value => value.display

end Block

end SpriteStage
