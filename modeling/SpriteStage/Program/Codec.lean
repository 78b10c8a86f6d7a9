import SpriteStage.Json.Record
import SpriteStage.Program.Block

namespace SpriteStage

mutual

/-- The block as an object with an already written successor. -/
def Block.toJson (next : Option Json) : Block → Json
  | ⟨id, typeId, fields, body, extra⟩ =>
    .obj ([("id", .str id), ("type", .str typeId), ("fields", .obj fields)]
      ++ (next.map fun j => ("next", j)).toList
      ++ ((blocksToJson? body).map fun j => ("body", j)).toList
      ++ extra)

/-- The blocks as one object, each nested in the one before it. -/
def blocksToJson? : List Block → Option Json
  | [] => none
  | b :: rest => some (b.toJson (blocksToJson? rest))

end

def Chain.toJson (c : Chain) : Json :=
  c.head.toJson (blocksToJson? c.tail)

def Program.toJson (program : Program) : Json :=
  .arr (program.map Chain.toJson)

namespace Block

/-- The keys that a document of a block is read from. -/
def documentKeys : List String := ["id", "type", "fields", "next", "body"]

/-- The fields of a block, which may be left out. -/
def readFields? : Option Source → Option (Entries Json)
  | none => some []
  | some value => value.toJson?.bind Json.entries?

/-- The keys of the editor among the entries of a document. -/
def readExtra? (entries : Entries Source) : Option (Entries Json) :=
  (Source.toEntries? (entries.filter fun (key, _) => !documentKeys.contains key)).map
    Entries.distinct

/-- The blocks that a document nests in each other. Every key of a block may stand only once. -/
def listOfSource? : Source → Option (List Block)
  | .obj entries =>
    if ((entries.map Prod.fst).filter documentKeys.contains).Nodup then do
      let id ← (Entries.get? entries "id").bind Source.text?
      let typeId ← (Entries.get? entries "type").bind Source.text?
      let fields ← readFields? (Entries.get? entries "fields")
      let tail ← match _hnext : Entries.get? entries "next" with
        | none => some []
        | some .null => some []
        | some next => listOfSource? next
      let body ← match _hbody : Entries.get? entries "body" with
        | none => some []
        | some .null => some []
        | some body => listOfSource? body
      let extra ← readExtra? entries
      pure (⟨id, typeId, fields, body, extra⟩ :: tail)
    else none
  | _ => none
termination_by document => sizeOf document
decreasing_by
  all_goals
    simp only [Source.obj.sizeOf_spec]
    first
      | have hsize := Entries.sizeOf_get?_lt _hnext; omega
      | have hsize := Entries.sizeOf_get?_lt _hbody; omega

end Block

/-- The chain that a document holds. -/
def Chain.ofSource? (document : Source) : Option Chain :=
  (Block.listOfSource? document).bind ofList?

end SpriteStage
