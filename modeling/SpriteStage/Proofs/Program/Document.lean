import SpriteStage.Program.Codec
import SpriteStage.Proofs.Json.WellFormed
import SpriteStage.Proofs.Program.Export

namespace SpriteStage

/-- A document of the blocks, each in the one before it, holds nothing but them: what a block carries is
    well-formed, and no key of the editor is one that a block is read from. -/
inductive Storable : List Block → Prop where
  | nil : Storable []
  | cons {b : Block} {rest : List Block} (hfields : (Json.obj b.fields).WellFormed)
      (hextra : (Json.obj b.extra).WellFormed) (hkeys : ∀ entry ∈ b.extra, entry.1 ∉ Block.documentKeys)
      (hbody : Storable b.body) (hrest : Storable rest) : Storable (b :: rest)

namespace Block

/-- The entries of a block under keys of its own, with what stands under `next` and `body`. -/
def ownEntries (b : Block) (next body : Option Json) : Entries Json :=
  [("id", .str b.id), ("type", .str b.typeId), ("fields", .obj b.fields)]
    ++ (next.map fun j => ("next", j)).toList ++ (body.map fun j => ("body", j)).toList

/-- A block is written down as its own entries and the keys of the editor behind them. -/
theorem toJson_eq (b : Block) (next : Option Json) :
    b.toJson next = .obj (b.ownEntries next (blocksToJson? b.body) ++ b.extra) := by
  obtain ⟨id, typeId, fields, body, extra⟩ := b
  rw [toJson]
  rfl

section Document

variable {b : Block} {next body : Option Json}

/-- The entries of a block itself stand under keys of the document, in order. -/
theorem keys_ownEntries : ((b.ownEntries next body).map Prod.fst).Sublist documentKeys := by
  cases next <;> cases body <;> simp [ownEntries, documentKeys]

variable (hkeys : ∀ entry ∈ b.extra, entry.1 ∉ documentKeys)

include hkeys

/-- The keys of a block are looked up among its own entries. -/
theorem get?_document {key : String} (hkey : key ∈ documentKeys) :
    Entries.get? (b.ownEntries next body ++ b.extra) key =
      Entries.get? (b.ownEntries next body) key := by
  have hnone : b.extra.lookup key = none := by
    rw [List.lookup_eq_none_iff]
    intro entry hentry
    have hne : key ≠ entry.1 := fun hsame => hkeys entry hentry (hsame ▸ hkey)
    simpa using hne
  unfold Entries.get?
  rw [List.lookup_append, hnone, Option.or_none]

/-- Where the keys of the editor are none of a block itself, no key of the document is repeated. -/
theorem nodup_keys_document (hextra : (b.extra.map Prod.fst).Nodup) :
    ((b.ownEntries next body ++ b.extra).map Prod.fst).Nodup := by
  rw [List.map_append, List.nodup_append]
  refine ⟨keys_ownEntries.nodup (by decide), hextra, ?_⟩
  intro key hown other hother hsame
  obtain ⟨entry, hentry, rfl⟩ := List.mem_map.1 hother
  exact hkeys entry hentry (hsame ▸ keys_ownEntries.subset hown)

/-- The keys of the editor are what is left of a document without the keys of a block. -/
theorem filter_document : (b.ownEntries next body ++ b.extra).filter
    (fun (key, _) => !documentKeys.contains key) = b.extra := by
  rw [List.filter_append, List.filter_eq_nil_iff.2, List.filter_eq_self.2, List.nil_append]
  · intro entry hentry
    simpa using hkeys entry hentry
  · intro entry hentry
    simpa using keys_ownEntries.subset (List.mem_map_of_mem hentry)

end Document

/-- The blocks that stand under a key of a document. -/
def readBlocks? : Option Source → Option (List Block)
  | none => some []
  | some .null => some []
  | some document => listOfSource? document

/-- A block is read from an object whose known keys stand once: id and type are required, everything
    else may be missing. -/
theorem listOfSource?_obj (entries : Entries Source) : listOfSource? (.obj entries) =
    if ((entries.map Prod.fst).filter documentKeys.contains).Nodup then do
      let id ← (Entries.get? entries "id").bind Source.text?
      let typeId ← (Entries.get? entries "type").bind Source.text?
      let fields ← readFields? (Entries.get? entries "fields")
      let tail ← readBlocks? (Entries.get? entries "next")
      let body ← readBlocks? (Entries.get? entries "body")
      let extra ← readExtra? entries
      pure (⟨id, typeId, fields, body, extra⟩ :: tail)
    else none := by
  rw [listOfSource?]
  generalize Entries.get? entries "next" = next
  generalize Entries.get? entries "body" = body
  rcases next with _ | ⟨_ | _⟩ <;> rcases body with _ | ⟨_ | _⟩ <;> rfl

/-- A block is read back from its document if what stands under `next` and `body` is. -/
theorem listOfSource?_document {b : Block} {rest : List Block} {next body : Option Json}
    (hfields : (Json.obj b.fields).WellFormed) (hextra : (Json.obj b.extra).WellFormed)
    (hkeys : ∀ entry ∈ b.extra, entry.1 ∉ documentKeys)
    (hbody : readBlocks? (body.map Json.toSource) = some b.body)
    (hnext : readBlocks? (next.map Json.toSource) = some rest) :
    listOfSource? (Json.obj (b.ownEntries next body ++ b.extra)).toSource = some (b :: rest) := by
  let entries := b.ownEntries next body ++ b.extra
  have hget {key : String} (hkey : key ∈ documentKeys) : Entries.get? (Json.entriesToSource entries) key =
      (Entries.get? (b.ownEntries next body) key).map Json.toSource := by
    rw [Json.get?_entriesToSource, get?_document hkeys hkey]
  have hownNext : Entries.get? (b.ownEntries next body) "next" = next := by
    cases next <;> cases body <;> rfl
  have hownBody : Entries.get? (b.ownEntries next body) "body" = body := by
    cases next <;> cases body <;> rfl
  have hnodup : ((entries.map Prod.fst).filter documentKeys.contains).Nodup :=
    (nodup_keys_document hkeys hextra.keys).filter _
  have hreadFields : readFields? (some (Json.obj b.fields).toSource) = some b.fields := by
    rw [readFields?, hfields.toJson?_toSource]
    rfl
  have hreadExtra : readExtra? (Json.entriesToSource entries) = some b.extra := by
    have hvalues := fun entry hentry => (hextra.values entry hentry).toJson?_toSource
    rw [readExtra?, Json.filter_entriesToSource (fun key => !documentKeys.contains key),
      filter_document hkeys, Json.toEntries?_entriesToSource hvalues, Option.map_some,
      Entries.distinct_of_nodup hextra.keys]
  rw [Json.toSource, listOfSource?_obj, Json.keys_entriesToSource, if_pos hnodup, hget (by decide),
    hget (by decide), hget (by decide), hget (by decide), hget (by decide), hownNext, hownBody, hbody,
    hnext, hreadExtra]
  change (readFields? (some (Json.obj b.fields).toSource) >>= _) = _
  rw [hreadFields]
  cases b
  rfl

end Block

namespace Storable

variable {blocks : List Block}

/-- What can be stored is read back as it was, bodies included. -/
theorem readBlocks?_toSource (h : Storable blocks) :
    Block.readBlocks? ((blocksToJson? blocks).map Json.toSource) = some blocks := by
  induction h with
  | nil => rfl
  | cons hfields hextra hkeys _ _ ihbody ihrest =>
    have hread := Block.listOfSource?_document hfields hextra hkeys ihbody ihrest
    rw [blocksToJson?, Option.map_some, Block.toJson_eq]
    exact hread

/-- The document of such blocks is well-formed. -/
theorem wellFormed (h : Storable blocks) : ∀ j ∈ blocksToJson? blocks, j.WellFormed := by
  induction h with
  | nil => nofun
  | @cons b rest hfields hextra hkeys _ _ ihbody ihrest =>
    rintro j ⟨⟩
    rw [Block.toJson_eq]
    refine .obj (Block.nodup_keys_document hkeys hextra.keys) ?_
    intro entry hentry
    rcases List.mem_append.1 hentry with hown | hadded
    · simp only [Block.ownEntries, List.mem_append, List.mem_cons, List.not_mem_nil, or_false,
        Option.mem_toList, Option.map_eq_some_iff] at hown
      rcases hown with ((rfl | rfl | rfl) | ⟨value, hvalue, rfl⟩) | ⟨value, hvalue, rfl⟩
      · exact .str _
      · exact .str _
      · exact hfields
      · exact ihrest value hvalue
      · exact ihbody value hvalue
    · exact hextra.values entry hadded

/-- A chain that can be stored is written down as a well-formed value. -/
theorem wellFormed_toJson {c : Chain} (h : Storable c.toList) : c.toJson.WellFormed :=
  h.wellFormed _ rfl

/-- A chain that can be stored is read back from its document. -/
theorem ofSource?_toSource {c : Chain} (h : Storable c.toList) :
    Chain.ofSource? c.toJson.toSource = some c := by
  have hread := h.readBlocks?_toSource
  rw [Chain.toList, blocksToJson?, Option.map_some, Block.toJson_eq] at hread
  have hlist : Block.listOfSource? _ = some (c.head :: c.tail) := hread
  rw [Chain.ofSource?, Chain.toJson, Block.toJson_eq, hlist]
  rfl

end Storable

/-- The keys of a node that a block is made from are those that it is read from, and its inputs. -/
theorem Export.documentKeys_subset : Block.documentKeys ⊆ nodeKeys := by
  simp [Block.documentKeys, nodeKeys]

namespace Json.WellFormed

variable {node inner : Json} (h : node.WellFormed)

include h

/-- What a well-formed node holds in an object under one of its keys is well-formed. -/
theorem entriesAt (key : String) : (Json.obj (Export.entriesAt node key)).WellFormed := by
  unfold Export.entriesAt
  cases hentries : (node.get? key).bind Json.entries? with
  | none => exact .empty
  | some entries =>
    obtain ⟨value, hvalue, hobject⟩ := Option.bind_eq_some_iff.1 hentries
    exact (h.get? hvalue).entries? hobject

/-- The fields that are gathered from a node and its sockets have every name once. -/
theorem fields : (Json.obj (Export.fields node)).WellFormed := by
  have hinputs := (h.entriesAt "inputs").values
  have hown := h.entriesAt "fields"
  unfold Export.fields Export.inputs
  generalize Export.entriesAt node "inputs" = inputs at hinputs
  generalize Export.entriesAt node "fields" = merged at hown
  induction inputs generalizing merged with
  | nil => exact hown
  | cons input rest ih =>
    have hinput := (hinputs input List.mem_cons_self).entriesAt "fields"
    exact ih (fun other hother => hinputs other (List.mem_cons_of_mem _ hother)) _
      (hown.merge hinput.values)

/-- The keys of the editor on a well-formed node form a well-formed object. -/
theorem extra : (Json.obj ((node.entries?.getD []).filter
    fun (key, _) => !Export.nodeKeys.contains key)).WellFormed := by
  cases hentries : node.entries? with
  | none => exact .empty
  | some entries => exact (h.entries? hentries).filter _

theorem wrapped? (hinner : Export.wrapped? node = some inner) : inner.WellFormed :=
  h.get? (Option.filter_eq_some_iff.1 hinner).1

/-- The successor of a well-formed node is well-formed. -/
theorem nextNode? (hinner : Export.nextNode? node = some inner) : inner.WellFormed := by
  obtain ⟨next, hnext, hwrapped⟩ := Option.bind_eq_some_iff.1 hinner
  exact (h.get? hnext).wrapped? hwrapped

/-- The node that is enclosed by a well-formed one is well-formed. -/
theorem bodyNode? (hinner : Export.bodyNode? node = some inner) : inner.WellFormed := by
  obtain ⟨⟨name, input⟩, hmem, hwrapped⟩ := List.mem_filterMap.1 (List.mem_of_getLast? hinner)
  simp only [Option.ite_none_right_eq_some] at hwrapped
  exact ((h.entriesAt "inputs").values _ hmem).wrapped? hwrapped.2

end Json.WellFormed

/-- The blocks that are read from a node can be stored: the keys of the editor that they keep are none of
    theirs. -/
theorem storable_ofNode {node : Json} (h : node.WellFormed) : Storable (Chain.ofNode node).toList := by
  induction node using Chain.ofNode.induct with
  | case1 node ihbody ihnext =>
    have hblocks {inner : Option Json} (hinner : ∀ node ∈ inner, Storable (Chain.ofNode node).toList) :
        Storable (Export.blocksOf inner) := by
      cases inner with
      | none => exact .nil
      | some node => exact hinner node rfl
    have hbody := hblocks fun inner hinner => ihbody inner hinner (h.bodyNode? hinner)
    have hnext := hblocks fun inner hinner => ihnext inner hinner (h.nextNode? hinner)
    rw [Chain.ofNode_eq]
    refine .cons h.fields h.extra ?_ hbody hnext
    intro entry hentry hkey
    have hkept := (List.mem_filter.1 hentry).2
    have hnode := Export.documentKeys_subset hkey
    simp [hnode] at hkept

end SpriteStage
