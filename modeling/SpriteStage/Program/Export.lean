import SpriteStage.Json.Printer
import SpriteStage.Program.Block
import SpriteStage.Text.Blank

namespace SpriteStage

/-- The value as text: strings stand for themselves and null for nothing. -/
def Json.display : Json → String
  | .null => ""
  | .str s => s
  | other => other.compact

namespace Export

/-- The keys of a node that a block is made from. -/
def nodeKeys : List String := ["id", "type", "fields", "inputs", "next", "body"]

/-- The entries under a key, if they are an object. -/
def entriesAt (node : Json) (key : String) : Entries Json :=
  ((node.get? key).bind Json.entries?).getD []

def inputs (node : Json) : Entries Json :=
  entriesAt node "inputs"

/-- The fields of the node itself with those of its inputs merged in, input by input. -/
def fields (node : Json) : Entries Json :=
  (inputs node).foldl (fun merged (_, input) => Entries.merge merged (entriesAt input "fields"))
    (entriesAt node "fields")

/-- The node wrapped as `block`, if it is an object. -/
def wrapped? (socket : Json) : Option Json :=
  (socket.get? "block").filter Json.isObject

/-- The socket of the enclosed chain, in letters of any case. -/
def isBodySocket (name : String) : Bool :=
  Text.foldCase name = "do"

/-- The node that the last body socket with a node holds. -/
def bodyNode? (node : Json) : Option Json :=
  ((inputs node).filterMap fun (name, input) =>
    if isBodySocket name then wrapped? input else none).getLast?

def nextNode? (node : Json) : Option Json :=
  (node.get? "next").bind wrapped?

/-- The block of a node without its successors, enclosing the given chain. -/
def block (node : Json) (body : List Block) : Block :=
  { id := ((node.get? "id").map Json.display).getD ""
    typeId := ((node.get? "type").bind Json.text?).getD "unknown"
    fields := fields node
    body := body
    extra := (node.entries?.getD []).filter fun (key, _) => !nodeKeys.contains key }

/-- The node that a socket wraps is smaller than the socket. -/
theorem sizeOf_wrapped?_lt {socket inner : Json} (hinner : wrapped? socket = some inner) :
    sizeOf inner < sizeOf socket :=
  Json.sizeOf_get?_lt (Option.filter_eq_some_iff.1 hinner).1

/-- The successor of a node is smaller than the node, so a chain of nodes comes to an end. -/
theorem sizeOf_nextNode?_lt {node inner : Json} (hinner : nextNode? node = some inner) :
    sizeOf inner < sizeOf node := by
  obtain ⟨next, hnext, hwrapped⟩ := Option.bind_eq_some_iff.1 hinner
  exact Nat.lt_trans (sizeOf_wrapped?_lt hwrapped) (Json.sizeOf_get?_lt hnext)

/-- What a node holds in an object under one of its keys is smaller than the node. -/
theorem sizeOf_entriesAt_lt {node : Json} {key : String} {entry : String × Json}
    (hentry : entry ∈ entriesAt node key) : sizeOf entry.2 < sizeOf node := by
  unfold entriesAt at hentry
  cases hget : (node.get? key).bind Json.entries? with
  | none => simp [hget] at hentry
  | some entries =>
    obtain ⟨value, hvalue, hentries⟩ := Option.bind_eq_some_iff.1 hget
    rw [hget, Option.getD_some] at hentry
    have hmem := List.sizeOf_lt_of_mem hentry
    have houter := Json.sizeOf_get?_lt hvalue
    have hinner := Json.sizeOf_entries?_lt hentries
    have hpair : sizeOf entry.2 < sizeOf entry := by
      cases entry
      simp only [Prod.mk.sizeOf_spec]
      omega
    omega

/-- The node that is enclosed by another is smaller than that one. -/
theorem sizeOf_bodyNode?_lt {node inner : Json} (hinner : bodyNode? node = some inner) :
    sizeOf inner < sizeOf node := by
  obtain ⟨⟨name, input⟩, hmem, hwrapped⟩ :=
    List.mem_filterMap.1 (List.mem_of_getLast? hinner)
  simp only [Option.ite_none_right_eq_some] at hwrapped
  exact Nat.lt_trans (sizeOf_wrapped?_lt hwrapped.2) (sizeOf_entriesAt_lt hmem)

end Export

/-- The chain that a node of the export starts. -/
def Chain.ofNode (node : Json) : Chain :=
  let body := match _hbody : Export.bodyNode? node with
    | some inner => (ofNode inner).toList
    | none => []
  let tail := match _hnext : Export.nextNode? node with
    | some inner => (ofNode inner).toList
    | none => []
  ⟨Export.block node body, tail⟩
termination_by sizeOf node
decreasing_by
  · exact Export.sizeOf_bodyNode?_lt _hbody
  · exact Export.sizeOf_nextNode?_lt _hnext

/-- The program of a list of nodes, one chain for each. -/
def Program.ofNodes (nodes : List Json) : Program :=
  nodes.map Chain.ofNode

/-- The nodes of an export: a list of nodes, or a workspace that holds the list under `blocks`
    twice. -/
def Export.nodes? (workspace : Json) : Option (List Json) :=
  match workspace with
  | .arr nodes => some nodes
  | other => ((other.get? "blocks").bind (·.get? "blocks")).bind Json.items?

/-- The program of an export; anything but an export is the empty program. -/
def Program.ofExport (workspace : Json) : Program :=
  Program.ofNodes ((Export.nodes? workspace).getD [])

end SpriteStage
