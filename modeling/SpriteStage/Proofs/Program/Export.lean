import SpriteStage.Program.Export
import SpriteStage.Proofs.Json.Entries

namespace SpriteStage

/-- An object with these entries stands under the key. It may be left out if it has none. -/
def Json.HasObject (j : Json) (key : String) (entries : Entries Json) : Prop :=
  j.get? key = some (.obj entries) ∨ (j.get? key = none ∧ entries = [])

namespace Export

/-- What a node holds in an object under a key are the entries of that object. -/
theorem entriesAt_of_hasObject {j : Json} {key : String} {entries : Entries Json}
    (h : j.HasObject key entries) : entriesAt j key = entries := by
  unfold entriesAt
  rcases h with hobject | ⟨hnone, rfl⟩
  · rw [hobject]
    rfl
  · rw [hnone]
    rfl

/-- A socket wraps the node that it holds under its key, or none if there is none. -/
theorem wrapped?_of_get? {socket : Json} {inner : Option Json} (hinner : socket.get? "block" = inner)
    (hobject : ∀ node ∈ inner, node.isObject = true) : wrapped? socket = inner := by
  rw [wrapped?, hinner]
  cases inner with
  | none => rfl
  | some node => exact Option.filter_some_pos (hobject node rfl)

/-- The inputs of a node, the fields that their sockets carry, one socket behind the other, and the node
    that one of them wraps. That socket is called `DO`, in letters of any case. -/
inductive Sockets : Entries Json → Entries Json → Option Json → Prop where
  | nil : Sockets [] [] none
  | carrying {name : String} {input : Json} {part fields : Entries Json} {rest : Entries Json}
      {inner : Option Json} (hpart : input.HasObject "fields" part) (hblock : input.get? "block" = none)
      (hrest : Sockets rest fields inner) : Sockets ((name, input) :: rest) (part ++ fields) inner
  | enclosing {name : String} {input : Json} {part fields : Entries Json} {rest : Entries Json}
      {node : Json} (hname : name ∈ ["DO", "Do", "dO", "do"]) (hpart : input.HasObject "fields" part)
      (hblock : input.get? "block" = some node) (hrest : Sockets rest fields none) :
      Sockets ((name, input) :: rest) (part ++ fields) (some node)

namespace Sockets

variable {inputs carried : Entries Json} {inner : Option Json}

/-- Merging the fields of all sockets gives the fields that they carry together, as long as no key
    is repeated. -/
theorem foldl_merge (h : Sockets inputs carried inner) {merged : Entries Json}
    (hkeys : ((merged ++ carried).map Prod.fst).Nodup) :
    inputs.foldl (fun merged (_, input) => Entries.merge merged (entriesAt input "fields")) merged =
      merged ++ carried := by
  induction h generalizing merged with
  | nil => rw [List.foldl_nil, List.append_nil]
  | carrying hpart _ _ ih | enclosing _ hpart _ _ ih =>
    rw [← List.append_assoc] at hkeys ⊢
    have hfirst := hkeys
    rw [List.map_append, List.nodup_append] at hfirst
    rw [List.foldl_cons]
    dsimp only
    rw [entriesAt_of_hasObject hpart, Entries.merge_of_nodup hfirst.1, ih hkeys]

/-- A socket encloses a chain however the two letters of its name are cased. -/
theorem isBodySocket_of_mem {name : String} (hname : name ∈ ["DO", "Do", "dO", "do"]) :
    isBodySocket name = true := by
  simp only [List.mem_cons, List.not_mem_nil, or_false] at hname
  rcases hname with rfl | rfl | rfl | rfl <;> decide

/-- Of all the sockets only the one that encloses a chain wraps a node. -/
theorem filterMap_wrapped? (h : Sockets inputs carried inner)
    (hobject : ∀ node ∈ inner, node.isObject = true) :
    (inputs.filterMap fun (name, input) => if isBodySocket name then wrapped? input else none) =
      inner.toList := by
  induction h with
  | nil => rfl
  | carrying _ hblock _ ih =>
    rw [List.filterMap_cons_none, ih hobject]
    dsimp only
    rw [wrapped?_of_get? hblock nofun, ite_self]
  | enclosing hname _ hblock _ ih =>
    rw [List.filterMap_cons_some, ih nofun]
    · rfl
    · dsimp only
      rw [isBodySocket_of_mem hname, if_pos rfl, wrapped?_of_get? hblock hobject]

end Sockets

/-- The node writes down the block. The fields of the block are cut anywhere into those of the node itself
    and those of its sockets; `inner` is the node of the enclosed chain and `next` that of the successor,
    and the keys of the editor may stand between the others. -/
structure Writes (node : Json) (b : Block) (inner next : Option Json) : Prop where
  id : node.get? "id" = some (.str b.id)
  typeId : node.get? "type" = some (.str b.typeId)
  fields : ∃ own inputs carried, node.HasObject "fields" own ∧ node.HasObject "inputs" inputs ∧
    Sockets inputs carried inner ∧ b.fields = own ++ carried
  next : (node.get? "next").bind (·.get? "block") = next
  extra : (node.entries?.getD []).filter (fun (key, _) => !nodeKeys.contains key) = b.extra
  nodup : (b.fields.map Prod.fst).Nodup

namespace Writes

variable {node : Json} {b : Block} {inner next : Option Json} (h : Writes node b inner next)

include h

/-- A node that writes a block down is an object. -/
theorem isObject : node.isObject = true := by
  obtain ⟨entries, hentries, _⟩ := Option.bind_eq_some_iff.1 h.id
  rw [Json.isObject, hentries]
  rfl

/-- The fields of the block are gathered from the node and the sockets of its inputs. -/
theorem fields_eq : Export.fields node = b.fields := by
  obtain ⟨own, inputs, carried, hown, hinputs, hsockets, hfields⟩ := h.fields
  have hkeys := h.nodup
  rw [hfields] at hkeys
  rw [Export.fields, Export.inputs, entriesAt_of_hasObject hown, entriesAt_of_hasObject hinputs, hfields,
    hsockets.foldl_merge hkeys]

/-- The block is read from the node that writes it down. -/
theorem block_eq : Export.block node b.body = b := by
  rw [block, h.id, h.typeId, h.fields_eq, h.extra]
  cases b
  rfl

/-- The enclosed chain is found in the socket that wraps it. -/
theorem bodyNode?_eq (hobject : ∀ node ∈ inner, node.isObject = true) : bodyNode? node = inner := by
  obtain ⟨own, inputs, carried, _, hinputs, hsockets, _⟩ := h.fields
  rw [bodyNode?, Export.inputs, entriesAt_of_hasObject hinputs, hsockets.filterMap_wrapped? hobject]
  cases inner <;> rfl

/-- The successor is found in the socket that wraps it. -/
theorem nextNode?_eq (hobject : ∀ node ∈ next, node.isObject = true) : nextNode? node = next := by
  rw [nextNode?, ← h.next]
  cases hsuccessor : node.get? "next" with
  | none => rfl
  | some socket =>
    rw [Option.bind_some, Option.bind_some]
    refine wrapped?_of_get? rfl ?_
    have hnext := h.next
    rw [hsuccessor, Option.bind_some] at hnext
    rwa [hnext]

end Writes

/-- A node of a block whose fields are cut into `own` ones and those in the sockets of `inputs`. -/
def node (b : Block) (own inputs : Entries Json) (next : Option Json) : Json :=
  .obj ([("id", .str b.id), ("type", .str b.typeId), ("fields", .obj own), ("inputs", .obj inputs)]
    ++ (next.map fun successor => ("next", .obj [("block", successor)])).toList ++ b.extra)

/-- However the fields of a block are cut, there is a node that writes it down. -/
theorem writes_node {b : Block} {own inputs carried : Entries Json} {inner : Option Json}
    (hsockets : Sockets inputs carried inner) (hfields : b.fields = own ++ carried)
    (hnodup : (b.fields.map Prod.fst).Nodup) (hextra : ∀ entry ∈ b.extra, entry.1 ∉ nodeKeys)
    (next : Option Json) : Writes (node b own inputs next) b inner next := by
  refine ⟨rfl, rfl, ⟨own, inputs, carried, .inl rfl, .inl rfl, hsockets, hfields⟩, ?_, ?_, hnodup⟩
  · cases next with
    | some successor => rfl
    | none =>
      have hnone : b.extra.lookup "next" = none := by
        rw [List.lookup_eq_none_iff]
        intro entry hentry
        have hnext : entry.1 ≠ "next" := fun hkey => hextra entry hentry (by rw [hkey]; decide)
        simpa using hnext.symm
      have hget : (node b own inputs none).get? "next" = b.extra.lookup "next" := rfl
      rw [hget, hnone]
      rfl
  · have hkept : b.extra.filter (fun (key, _) => !nodeKeys.contains key) = b.extra := by
      rw [List.filter_eq_self]
      intro entry hentry
      simpa using hextra entry hentry
    cases next <;> exact hkept

end Export

/-- The node, if there is one, writes down the blocks: the first of them and, under `next`, the others. -/
inductive Exports : List Block → Option Json → Prop where
  | absent : Exports [] none
  | node {b : Block} {tail : List Block} {node : Json} {inner next : Option Json}
      (hwrites : Export.Writes node b inner next) (hbody : Exports b.body inner)
      (htail : Exports tail next) : Exports (b :: tail) (some node)

/-- The blocks that are read from a node, if there is one. -/
def Export.blocksOf (node : Option Json) : List Block :=
  node.elim [] fun node => (Chain.ofNode node).toList

/-- Reading a node gathers its block, the chain that it encloses and the blocks behind it. -/
theorem Chain.ofNode_eq (node : Json) : ofNode node =
    ⟨Export.block node (Export.blocksOf (Export.bodyNode? node)),
      Export.blocksOf (Export.nextNode? node)⟩ := by
  rw [ofNode]
  cases Export.bodyNode? node <;> cases Export.nextNode? node <;> rfl

/-- Blocks are written down by an object, if there are any. -/
theorem Exports.isObject {blocks : List Block} {written : Option Json} (h : Exports blocks written) :
    ∀ node ∈ written, node.isObject = true := by
  rintro node ⟨⟩
  cases h with
  | node hwrites => exact hwrites.isObject

/-- Reading what writes blocks down gives these blocks, at every depth. -/
theorem Exports.blocksOf_eq {blocks : List Block} {written : Option Json} (h : Exports blocks written) :
    Export.blocksOf written = blocks := by
  induction h with
  | absent => rfl
  | node hwrites hbody htail ihbody ihtail =>
    rw [Export.blocksOf, Option.elim_some, Chain.ofNode_eq, hwrites.bodyNode?_eq hbody.isObject,
      hwrites.nextNode?_eq htail.isObject, ihbody, ihtail, hwrites.block_eq]
    rfl

/-- A chain is read back from every export of it. -/
theorem ofNode_of_exports {chain : Chain} {node : Json} (h : Exports chain.toList (some node)) :
    Chain.ofNode node = chain := by
  have hblocks := h.blocksOf_eq
  rw [Export.blocksOf, Option.elim_some] at hblocks
  generalize Chain.ofNode node = read at hblocks
  obtain ⟨head, tail⟩ := read
  rw [Chain.toList, Chain.toList, List.cons.injEq] at hblocks
  obtain ⟨rfl, rfl⟩ := hblocks
  rfl

/-- A loop around two blocks, and the block behind it. -/
def looped : Chain :=
  ⟨⟨"r", "repeat", [("TIMES", .int 3), ("unit", .str "s")],
    [⟨"g", "glide", [("seconds", .int 2), ("x_position", .int 10), ("y_position", .int (-4))], [], []⟩,
      ⟨"s", "say", [("message", .str "Hi!")], [], [("collapsed", .bool true)]⟩],
    [("x", .int 12), ("y", .int 8)]⟩, [⟨"w", "wait", [("seconds", .int 1)], [], []⟩]⟩

def sayNode : Json :=
  .obj [("type", .str "say"), ("collapsed", .bool true), ("id", .str "s"),
    ("inputs", .obj [("TEXT", .obj [("fields", .obj [("message", .str "Hi!")])])])]

def glideNode : Json :=
  .obj [("id", .str "g"), ("type", .str "glide"), ("fields", .obj [("seconds", .int 2)]),
    ("inputs", .obj [("X", .obj [("fields", .obj [("x_position", .int 10)])]),
      ("Y", .obj [("fields", .obj [("y_position", .int (-4))])])]),
    ("next", .obj [("block", sayNode)])]

def waitNode : Json :=
  Export.node ⟨"w", "wait", [("seconds", .int 1)], [], []⟩ [("seconds", .int 1)] [] none

/-- An export of the loop, with its coordinates between the other keys and a field in the socket of its
    body. The glide in it has its fields in three places. -/
def loopedNode : Json :=
  .obj [("x", .int 12), ("id", .str "r"), ("type", .str "repeat"),
    ("inputs", .obj [("TIMES", .obj [("fields", .obj [("TIMES", .int 3)])]),
      ("dO", .obj [("block", glideNode), ("fields", .obj [("unit", .str "s")])])]),
    ("y", .int 8), ("next", .obj [("block", waitNode)])]

/-- The loop is read back with all that is in it. -/
theorem ofNode_of_exports_looped :
    Exports looped.toList (some loopedNode) ∧ Chain.ofNode loopedNode = looped := by
  have hsay : Exports [looped.head.body[1]] (some sayNode) := by
    refine .node ⟨rfl, rfl, ?_, rfl, rfl, by decide⟩ .absent .absent
    exact ⟨[], _, _, .inr ⟨rfl, rfl⟩, .inl rfl, .carrying (.inl rfl) rfl .nil, rfl⟩
  have hglide : Exports looped.head.body (some glideNode) := by
    refine .node ⟨rfl, rfl, ?_, rfl, rfl, by decide⟩ .absent hsay
    exact ⟨_, _, _, .inl rfl, .inl rfl, .carrying (.inl rfl) rfl (.carrying (.inl rfl) rfl .nil), rfl⟩
  have hwait : Exports looped.tail (some waitNode) := by
    refine .node (Export.writes_node .nil rfl (by decide) ?_ none) .absent .absent
    exact nofun
  have hexports : Exports looped.toList (some loopedNode) := by
    refine .node ⟨rfl, rfl, ?_, rfl, rfl, by decide⟩ hglide hwait
    exact ⟨[], _, _, .inr ⟨rfl, rfl⟩, .inl rfl,
      .carrying (.inl rfl) rfl (.enclosing (by decide) (.inl rfl) rfl .nil), rfl⟩
  exact ⟨hexports, ofNode_of_exports hexports⟩

end SpriteStage
