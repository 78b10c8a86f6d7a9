import SpriteStage.Json.Source

namespace SpriteStage.Toml

/-- How a table came into being. -/
inductive Origin where
  /-- By a header of its own; the document itself counts as one. -/
  | header
  /-- By the header of a table inside it. -/
  | implied
  /-- By a dotted key. -/
  | dotted
deriving DecidableEq, Repr

/-- What stands under a key. A table is opened by a header, implied by the header of a table inside
    it, or named by the front of a dotted key, and each of these restricts how it may be extended
    later. -/
inductive Node where
  | value (value : Source)
  | table (origin : Origin) (entries : List (String × Node))
  /-- The tables of a list, the newest first. -/
  | tables (items : List (List (String × Node)))

mutual

def Node.toSource : Node → Source
  | .value v => v
  | .table _ entries => .obj (entriesToSource entries)
  | .tables items => .arr (itemsToSource items).reverse

def entriesToSource : List (String × Node) → List (String × Source)
  | [] => []
  | (key, node) :: rest => (key, node.toSource) :: entriesToSource rest

def itemsToSource : List (List (String × Node)) → List Source
  | [] => []
  | entries :: rest => .obj (entriesToSource entries) :: itemsToSource rest

end

/-- Changes the entries of the table at a path. Missing tables on the way are added with the origin
    `added`; a list of tables stands for its newest. A dotted key does not lead into a table that has
    a header. -/
def changeAt? (added : Origin) (change : Origin → Entries Node → Option (Entries Node))
    (origin : Origin) (entries : Entries Node) : List String → Option (Entries Node)
  | [] => change origin entries
  | key :: path =>
    match entries.get? key with
    | none =>
      (changeAt? added change added [] path).map fun inner =>
        Entries.put key (.table added inner) entries
    | some (.value _) => none
    | some (.table inner nested) =>
      if added = .dotted && inner = .header then none
      else
        (changeAt? added change inner nested path).map fun nested =>
          Entries.put key (.table inner nested) entries
    | some (.tables []) => none
    | some (.tables (newest :: others)) =>
      (changeAt? added change .header newest path).map fun newest =>
        Entries.put key (.tables (newest :: others)) entries

/-- Adds a value under a key. The front of a dotted key leads to tables of dotted keys only, and
    nothing is defined twice. -/
def insert? (entries : Entries Node) (key : List String) (value : Source) :
    Option (Entries Node) := do
  let name ← key.getLast?
  let front := key.dropLast
  let add (origin : Origin) (entries : Entries Node) : Option (Entries Node) :=
    if (!front.isEmpty && origin ≠ .dotted) || (entries.get? name).isSome then none
    else some (entries ++ [(name, .value value)])
  changeAt? .dotted add .header entries front

/-- The entries at a path, if there is a table. -/
def entriesAt (entries : Entries Node) : List String → Entries Node
  | [] => entries
  | key :: path =>
    match entries.get? key with
    | some (.table _ nested) => entriesAt nested path
    | some (.tables (newest :: _)) => entriesAt newest path
    | _ => []

/-- A document that is being read: its tables, and the table of the latest header with what was put
    into it so far. -/
structure Builder where
  root : Entries Node
  path : List String
  isListed : Bool
  entries : Entries Node

namespace Builder

def start : Builder := ⟨[], [], false, []⟩

/-- The tables of the document with the open table put in its place. -/
def close? (b : Builder) : Option (Entries Node) :=
  match b.path.getLast? with
  | none => some b.entries
  | some name =>
    let place (_ : Origin) (entries : Entries Node) : Option (Entries Node) :=
      if b.isListed then
        match entries.get? name with
        | none => some (Entries.put name (.tables [b.entries]) entries)
        | some (.tables items) => some (Entries.put name (.tables (b.entries :: items)) entries)
        | some _ => none
      else some (Entries.put name (.table .header b.entries) entries)
    changeAt? .implied place .header b.root b.path.dropLast

/-- Opens the table of a header. A table has one header, so there may only be a table there that was
    implied. -/
def openTable? (path : List String) (b : Builder) : Option Builder := do
  let name ← path.getLast?
  let check (_ : Origin) (entries : Entries Node) : Option (Entries Node) :=
    match entries.get? name with
    | none => some entries
    | some (.table .implied _) => some entries
    | some _ => none
  let root ← changeAt? .implied check .header (← b.close?) path.dropLast
  pure ⟨root, path, false, entriesAt root path⟩

/-- Opens a new table of a list. -/
def openListed? (path : List String) (b : Builder) : Option Builder := do
  let name ← path.getLast?
  let check (_ : Origin) (entries : Entries Node) : Option (Entries Node) :=
    match entries.get? name with
    | none => some entries
    | some (.tables _) => some entries
    | some _ => none
  let root ← changeAt? .implied check .header (← b.close?) path.dropLast
  pure ⟨root, path, true, []⟩

def insert? (key : List String) (value : Source) (b : Builder) : Option Builder :=
  (Toml.insert? b.entries key value).map fun entries => { b with entries := entries }

end Builder

end SpriteStage.Toml
