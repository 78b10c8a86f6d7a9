import SpriteStage.Program.Field
import SpriteStage.Proofs.Program.Document

namespace SpriteStage

/-- Two characters that are one in lower case are the letter in one case and in the other. -/
theorem Text.eq_or_eq_of_toLower {c lower : Char} (upper : Char) (hcase : upper.val + 32 = lower.val)
    (hlower : c.toLower = lower) : c = lower ∨ c = upper := by
  unfold Char.toLower at hlower
  split at hlower
  case isTrue =>
    have hval : c.val + 32 = lower.val := congrArg Char.val hlower
    rw [← hcase, UInt32.add_left_inj] at hval
    exact Or.inr (Char.ext hval)
  case isFalse => exact Or.inl hlower

namespace Export

/-- What the `fields` of a node or of an input say under a name, if they are an object. -/
def fieldAt (j : Json) (name : String) : Option Json :=
  (j.get? "fields").bind (·.get? name)

/-- The names in the `fields` of a node or of an input, in order. -/
def namesAt (j : Json) : List String :=
  (entriesAt j "fields").map Prod.fst

/-- The input is called `DO`, in letters of any case, and wraps the node. -/
structure Encloses (input : String × Json) (inner : Json) : Prop where
  socket : input.1 ∈ ["DO", "Do", "dO", "do"]
  block : input.2.get? "block" = some inner
  isObject : inner.isObject = true

/-- The node wraps the other one under `next`. -/
structure LeadsTo (node inner : Json) : Prop where
  block : (node.get? "next").bind (·.get? "block") = some inner
  isObject : inner.isObject = true

/-- What a chain has from a node. A field has the value of the last input that mentions it, and the value
    of the node itself if none does; an enclosed chain is that of the last input which encloses one. -/
structure Gathers (node : Json) (chain : Chain) : Prop where
  named : ∀ name, (∃ value, chain.head.field? name = some value) ↔
    (∃ value, fieldAt node name = some value) ∨
      ∃ input ∈ inputs node, ∃ value, fieldAt input.2 name = some value
  value : ∀ name, chain.head.field? name =
    ((inputs node).filterMap fun input => fieldAt input.2 name).getLast?.or (fieldAt node name)
  order : chain.head.fields.map Prod.fst =
    (namesAt node ++ (inputs node).flatMap fun input => namesAt input.2).eraseDups
  body : (∃ front input back inner, inputs node = front ++ input :: back ∧ Encloses input inner ∧
      (∀ later ∈ back, ∀ other, ¬ Encloses later other) ∧
      chain.head.body = (Chain.ofNode inner).toList) ∨
    (∀ input ∈ inputs node, ∀ inner, ¬ Encloses input inner) ∧ chain.head.body = []
  next : (∃ inner, LeadsTo node inner ∧ chain.tail = (Chain.ofNode inner).toList) ∨
    (∀ inner, ¬ LeadsTo node inner) ∧ chain.tail = []
  extra : chain.head.extra.Sublist (node.entries?.getD []) ∧
    ∀ key, Entries.get? chain.head.extra key =
      if key ∈ ["id", "type", "fields", "inputs", "next", "body"] then none else node.get? key

/-- Looking a name up in the entries at a key is looking it up in the value there. -/
theorem get?_entriesAt (j : Json) (key name : String) :
    (entriesAt j key).get? name = (j.get? key).bind (·.get? name) := by
  unfold entriesAt Json.get?
  cases j.entries?.bind (·.get? key) with
  | none => rfl
  | some value =>
    rw [Option.bind_some, Option.bind_some]
    cases value.entries? <;> rfl

/-- The fields of a node and its inputs are merged in one go. -/
theorem fields_eq_merge (node : Json) : fields node =
    (entriesAt node "fields").merge ((inputs node).flatMap fun input => entriesAt input.2 "fields") := by
  rw [Entries.merge, List.foldl_flatMap]
  rfl

/-- Merging the fields of inputs in, one input after the other, lets the last mention win. -/
theorem get?_foldl_merge {inputs : Entries Json}
    (hinputs : ∀ input ∈ inputs, (namesAt input.2).Nodup) (merged : Entries Json) (name : String) :
    (inputs.foldl (fun merged (_, input) => Entries.merge merged (entriesAt input "fields"))
        merged).get? name =
      (inputs.filterMap fun input => fieldAt input.2 name).getLast?.or (merged.get? name) := by
  induction inputs generalizing merged with
  | nil => rfl
  | cons input rest ih =>
    rw [List.forall_mem_cons] at hinputs
    have hlast : ((input :: rest).filterMap fun input => fieldAt input.2 name).getLast? =
        (rest.filterMap fun input => fieldAt input.2 name).getLast?.or (fieldAt input.2 name) := by
      rw [List.filterMap_cons]
      cases fieldAt input.2 name with
      | none => rw [Option.or_none]
      | some value =>
        rw [List.getLast?_cons]
        cases (rest.filterMap fun input => fieldAt input.2 name).getLast? <;> rfl
    rw [List.foldl_cons, ih hinputs.2, Entries.get?_merge hinputs.1, get?_entriesAt, hlast,
      Option.or_assoc]
    rfl

/-- Only four spellings name a socket that encloses a chain. -/
theorem mem_of_isBodySocket {name : String} (hname : isBodySocket name = true) :
    name ∈ ["DO", "Do", "dO", "do"] := by
  have hletters : name.toList.map Char.toLower = ['d', 'o'] := by
    have hfolded := congrArg String.toList (of_decide_eq_true hname)
    rwa [Text.foldCase, String.toList_ofList] at hfolded
  obtain ⟨d, rest, hsplit, hd, hrest⟩ := List.map_eq_cons_iff.1 hletters
  obtain ⟨o, last, rfl, ho, hlast⟩ := List.map_eq_cons_iff.1 hrest
  rw [List.map_eq_nil_iff] at hlast
  rw [← String.ofList_toList (s := name), hsplit, hlast]
  rcases Text.eq_or_eq_of_toLower 'D' (by decide) hd with rfl | rfl <;>
    rcases Text.eq_or_eq_of_toLower 'O' (by decide) ho with rfl | rfl <;> decide

/-- A socket wraps what it holds under its key if that is an object. -/
theorem wrapped?_eq_some_iff {socket inner : Json} : wrapped? socket = some inner ↔
    socket.get? "block" = some inner ∧ inner.isObject = true :=
  Option.filter_eq_some_iff

/-- An input encloses a node if its name says so and it wraps the node. -/
theorem encloses_iff {input : String × Json} {inner : Json} : Encloses input inner ↔
    (if isBodySocket input.1 then wrapped? input.2 else none) = some inner := by
  rw [Option.ite_none_right_eq_some, wrapped?_eq_some_iff]
  constructor
  · rintro ⟨hsocket, hblock, hobject⟩
    exact ⟨Sockets.isBodySocket_of_mem hsocket, hblock, hobject⟩
  · rintro ⟨hsocket, hblock, hobject⟩
    exact ⟨mem_of_isBodySocket hsocket, hblock, hobject⟩

/-- A node leads to the one that its successor socket wraps. -/
theorem leadsTo_iff {node inner : Json} : LeadsTo node inner ↔ nextNode? node = some inner := by
  rw [nextNode?, Option.bind_eq_some_iff]
  constructor
  · rintro ⟨hblock, hobject⟩
    obtain ⟨next, hnext, hinner⟩ := Option.bind_eq_some_iff.1 hblock
    exact ⟨next, hnext, wrapped?_eq_some_iff.2 ⟨hinner, hobject⟩⟩
  · rintro ⟨next, hnext, hwrapped⟩
    obtain ⟨hinner, hobject⟩ := wrapped?_eq_some_iff.1 hwrapped
    exact ⟨Option.bind_eq_some_iff.2 ⟨next, hnext, hinner⟩, hobject⟩

/-- The node that is enclosed is the one of the last input that encloses any. -/
theorem bodyNode?_eq_some_iff {node inner : Json} : bodyNode? node = some inner ↔
    ∃ front input back, inputs node = front ++ input :: back ∧ Encloses input inner ∧
      ∀ later ∈ back, ∀ other, ¬ Encloses later other := by
  rw [bodyNode?, List.getLast?_filterMap, List.findSome?_eq_some_iff]
  simp only [encloses_iff, ← Option.eq_none_iff_forall_ne_some]
  constructor
  · rintro ⟨back, input, front, hreverse, hinput, hback⟩
    refine ⟨front.reverse, input, back.reverse, ?_, hinput, ?_⟩
    · rw [← List.reverse_reverse (inputs node), hreverse]
      simp
    · simpa using hback
  · rintro ⟨front, input, back, hinputs, hinput, hback⟩
    refine ⟨back.reverse, input, front.reverse, ?_, hinput, ?_⟩
    · rw [hinputs]
      simp
    · simpa using hback

/-- A node encloses nothing exactly if none of its inputs does. -/
theorem bodyNode?_eq_none_iff {node : Json} : bodyNode? node = none ↔
    ∀ input ∈ inputs node, ∀ inner, ¬ Encloses input inner := by
  rw [bodyNode?, List.getLast?_eq_none_iff, List.filterMap_eq_nil_iff]
  simp only [encloses_iff, ← Option.eq_none_iff_forall_ne_some]

/-- Keys that are left out are not found, and all others as before. -/
theorem get?_filter (left : List String) (entries : Entries Json) (key : String) :
    Entries.get? (entries.filter fun (key, _) => !left.contains key) key =
      if key ∈ left then none else entries.get? key := by
  induction entries with
  | nil => rw [List.filter_nil, Entries.get?, List.lookup_nil, ite_self]
  | cons entry rest ih =>
    obtain ⟨k, value⟩ := entry
    rw [Entries.get?_cons]
    by_cases hk : k ∈ left
    · rw [List.filter_cons_of_neg (by simpa using hk), ih]
      by_cases hkey : key = k
      · rw [if_pos (hkey ▸ hk), if_pos (hkey ▸ hk)]
      · rw [if_neg hkey]
    · rw [List.filter_cons_of_pos (by simpa using hk), Entries.get?_cons, ih]
      by_cases hkey : key = k
      · rw [if_pos hkey, if_pos hkey, if_neg (hkey ▸ hk)]
      · rw [if_neg hkey, if_neg hkey]

/-- The keys of the editor are all those that the reader of a node does not know. -/
theorem get?_extra (node : Json) (key : String) :
    Entries.get? ((node.entries?.getD []).filter fun (key, _) => !nodeKeys.contains key) key =
      if key ∈ nodeKeys then none else node.get? key := by
  rw [get?_filter, Json.get?]
  cases node.entries? <;> rfl

/-- A chain gathers all that its node and the inputs of the node say. -/
theorem gathers_ofNode {node : Json} (h : node.WellFormed) : Gathers node (Chain.ofNode node) := by
  have hinputs : ∀ input ∈ inputs node, (namesAt input.2).Nodup := fun input hinput =>
    (((h.entriesAt "inputs").values input hinput).entriesAt "fields").keys
  have hvalue (name : String) : (Chain.ofNode node).head.field? name =
      ((inputs node).filterMap fun input => fieldAt input.2 name).getLast?.or (fieldAt node name) := by
    have hmerged := get?_foldl_merge hinputs (entriesAt node "fields") name
    rw [get?_entriesAt] at hmerged
    rw [Chain.ofNode_eq]
    exact hmerged
  refine ⟨?_, hvalue, ?_, ?_, ?_, ?_⟩
  · intro name
    rw [hvalue]
    cases hlast : ((inputs node).filterMap fun input => fieldAt input.2 name).getLast? with
    | none =>
      rw [List.getLast?_eq_none_iff, List.filterMap_eq_nil_iff] at hlast
      rw [Option.none_or, iff_self_or]
      rintro ⟨input, hinput, value, hfield⟩
      rw [hlast input hinput] at hfield
      cases hfield
    | some value =>
      obtain ⟨input, hinput, hfield⟩ := List.mem_filterMap.1 (List.mem_of_getLast? hlast)
      exact ⟨fun _ => Or.inr ⟨input, hinput, value, hfield⟩, fun _ => ⟨value, rfl⟩⟩
  · have hown : (namesAt node).Nodup := (h.entriesAt "fields").keys
    rw [Chain.ofNode_eq]
    change (fields node).map Prod.fst = _
    rw [fields_eq_merge, Entries.keys_merge hown, List.map_flatMap]
    rfl
  · rw [Chain.ofNode_eq]
    cases hbody : bodyNode? node with
    | none => exact Or.inr ⟨bodyNode?_eq_none_iff.1 hbody, rfl⟩
    | some inner =>
      obtain ⟨front, input, back, hsplit, hinput, hback⟩ := bodyNode?_eq_some_iff.1 hbody
      exact Or.inl ⟨front, input, back, inner, hsplit, hinput, hback, rfl⟩
  · rw [Chain.ofNode_eq]
    simp only [leadsTo_iff]
    cases nextNode? node with
    | none => exact Or.inr ⟨nofun, rfl⟩
    | some inner => exact Or.inl ⟨inner, rfl, rfl⟩
  · rw [Chain.ofNode_eq]
    exact ⟨List.filter_sublist, get?_extra node⟩

/-- A node as it is written down: two of its inputs and the node itself mention `b`, one key is repeated,
    and of the sockets of the body only the first one wraps an object. -/
def collidingNode : Source :=
  .obj [("x", .int 12), ("id", .int 7), ("fields", .obj [("a", .int 1), ("b", .int 2), ("a", .int 9)]),
    ("inputs", .obj [("P", .obj [("fields", .obj [("b", .int 3), ("c", .int 4)])]),
      ("do", .obj [("block", .obj [("id", .str "first"), ("type", .str "say")])]),
      ("DO", .obj [("block", .null), ("fields", .obj [("b", .int 5)])]), ("Q", .bool true)]),
    ("next", .obj [("block", .arr [])]), ("y", .int 8)]

/-- The last input has its way with `b`, which keeps its place, and the first socket with the body. -/
theorem gathers_ofNode_colliding : ∃ node, collidingNode.toJson? = some node ∧ node.WellFormed ∧
    let chain := Chain.ofNode node
    chain.head.field? "b" = some (.int 5) ∧ chain.head.fields.map Prod.fst = ["a", "b", "c"] ∧
      chain.head.body = (Chain.ofNode (.obj [("id", .str "first"), ("type", .str "say")])).toList ∧
      chain.tail = [] ∧ Entries.get? chain.head.extra "y" = some (.int 8) := by
  obtain ⟨node, hread, hinner⟩ : ∃ node, collidingNode.toJson? = some node ∧
    bodyNode? node = some (.obj [("id", .str "first"), ("type", .str "say")]) := ⟨_, rfl, rfl⟩
  have h := Source.wellFormed_toJson? hread
  have hgathers := gathers_ofNode h
  cases hread
  refine ⟨_, rfl, h, hgathers.value "b", ?_, ?_, ?_, hgathers.extra.2 "y"⟩
  · rw [hgathers.order]
    decide
  · rcases hgathers.body with ⟨front, input, back, inner, hsplit, hinput, hback, hbody⟩ | ⟨hnone, _⟩
    · rw [bodyNode?_eq_some_iff.2 ⟨front, input, back, hsplit, hinput, hback⟩] at hinner
      rwa [← Option.some.inj hinner]
    · rw [bodyNode?_eq_none_iff.2 hnone] at hinner
      cases hinner
  · rcases hgathers.next with ⟨inner, hleads, _⟩ | ⟨_, htail⟩
    · cases hleads.isObject.symm.trans (congrArg Json.isObject (Option.some.inj hleads.block.symm))
    · exact htail

end Export

end SpriteStage
