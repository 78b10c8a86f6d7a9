import SpriteStage.Json.Basic

namespace SpriteStage

/-- A JSON text as a tree. -/
inductive Source where
  | null
  | bool (value : Bool)
  | int (value : Int)
  | double (value : Float)
  | str (value : String)
  | arr (items : List Source)
  | obj (entries : List (String × Source))
  /-- A number too large for a double, a string with half a surrogate pair, or a part that is nested
      too deep. -/
  | unusable
deriving Inhabited

namespace Source

mutual

/-- The value of the tree, in which a repeated key has its first place and its last value. -/
def toJson? : Source → Option Json
  | .null => some .null
  | .bool b => some (.bool b)
  | .int i => some (.int i)
  | .double x => some (.double x)
  | .str s => some (.str s)
  | .arr items => (toItems? items).map .arr
  | .obj entries => (toEntries? entries).map fun es => .obj (Entries.distinct es)
  | .unusable => none

def toItems? : List Source → Option (List Json)
  | [] => some []
  | item :: rest => do
    let head ← toJson? item
    let tail ← toItems? rest
    pure (head :: tail)

/-- The values of all entries, with repeated keys kept. -/
def toEntries? : List (String × Source) → Option (List (String × Json))
  | [] => some []
  | (key, value) :: rest => do
    let head ← toJson? value
    let tail ← toEntries? rest
    pure ((key, head) :: tail)

end

end Source

namespace Json

mutual

/-- The value as a tree, every entry written once and in order. -/
def toSource : Json → Source
  | .null => .null
  | .bool b => .bool b
  | .int i => .int i
  | .double x => .double x
  | .str s => .str s
  | .arr items => .arr (itemsToSource items)
  | .obj entries => .obj (entriesToSource entries)

def itemsToSource : List Json → List Source
  | [] => []
  | item :: rest => toSource item :: itemsToSource rest

def entriesToSource : List (String × Json) → List (String × Source)
  | [] => []
  | (key, value) :: rest => (key, toSource value) :: entriesToSource rest

end

end Json

end SpriteStage
