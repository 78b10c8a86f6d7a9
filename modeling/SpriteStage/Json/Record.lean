import SpriteStage.Json.Source
import SpriteStage.Number.Binary

namespace SpriteStage.Source

def bool? : Source → Option Bool
  | .bool b => some b
  | _ => none

def text? : Source → Option String
  | .str s => some s
  | _ => none

/-- A double; integers are accepted. -/
def float? : Source → Option Float
  | .int i => some (Number.ofInt i)
  | .double x => some x
  | _ => none

/-- A natural number below a limit; doubles are not accepted. -/
def natural? (limit : Nat) : Source → Option Nat
  | .int i => if 0 ≤ i ∧ i < limit then some i.toNat else none
  | _ => none

/-- The items of an array, each read in the same way. -/
def list? {β : Type} (read : Source → Option β) : Source → Option (List β)
  | .arr items => items.mapM read
  | _ => none

/-- A value that may be null. -/
def nullable? {β : Type} (read : Source → Option β) : Source → Option (Option β)
  | .null => some none
  | other => (read other).map some

/-- One of several names, written as a string or as the only key of an object that holds null. -/
def choice? {β : Type} (choices : List (String × β)) : Source → Option β
  | .str name => choices.lookup name
  | .obj [(name, .null)] => choices.lookup name
  | _ => none

/-- The values that a tree gives to the fields of a record. -/
structure Record where
  /-- The values were given in order and without names. -/
  positional : Bool
  values : Entries Source

/-- Reads a tree as a record with the given field names. -/
def record? (names : List String) : Source → Option Record
  | .obj entries =>
    let known := entries.filter fun (key, _) => names.contains key
    if (known.map Prod.fst).Nodup then some ⟨false, known⟩ else none
  | .arr items => if items.length ≤ names.length then some ⟨true, names.zip items⟩ else none
  | _ => none

namespace Record

variable {β : Type}

def required? (r : Record) (name : String) (read : Source → Option β) : Option β :=
  (r.values.get? name).bind read

/-- A field that may be left out. -/
def withDefault? (r : Record) (name : String) (default : β) (read : Source → Option β) : Option β :=
  match r.values.get? name with
  | none => some default
  | some value => read value

/-- A field that may be null. Without a name it cannot be left out. -/
def nullable? (r : Record) (name : String) (read : Source → Option β) : Option (Option β) :=
  match r.values.get? name with
  | none => if r.positional then none else some none
  | some value => Source.nullable? read value

end Record

end SpriteStage.Source
