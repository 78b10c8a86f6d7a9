import SpriteStage.Program.Vocabulary

namespace SpriteStage

/-- One block of a program without its successors. -/
structure Block where
  id : String
  typeId : String
  /-- The values by field name, each name once. -/
  fields : List (String × Json)
  /-- The chain that the block encloses; empty if it encloses none. -/
  body : List Block
  /-- Further keys of the editor, such as coordinates, in order. -/
  extra : List (String × Json)
deriving Inhabited

/-- A block and the blocks that follow it. -/
structure Chain where
  head : Block
  tail : List Block
deriving Inhabited

/-- The chains of a sprite in the order of the editor. -/
abbrev Program := List Chain

def Block.kind? (b : Block) : Option BlockKind :=
  BlockKind.ofTypeId? b.typeId

/-- The block is of this kind. -/
def Block.is (b : Block) (kind : BlockKind) : Bool :=
  b.typeId = kind.typeId

/-- No two kinds share a type. -/
theorem Block.is_iff_kind? {b : Block} {kind : BlockKind} : b.is kind = true ↔ b.kind? = some kind := by
  constructor
  · intro hkind
    have htype : b.typeId = kind.typeId := by simpa [is] using hkind
    rw [kind?, htype, BlockKind.ofTypeId?_typeId]
  · intro hkind
    simp [is, BlockKind.typeId_of_ofTypeId? hkind]

namespace Chain

def toList (c : Chain) : List Block := c.head :: c.tail

def length (c : Chain) : Nat := c.toList.length

/-- The first block on its own. -/
def detached (c : Chain) : Chain := ⟨c.head, []⟩

def ofList? : List Block → Option Chain
  | [] => none
  | head :: tail => some ⟨head, tail⟩

end Chain

namespace Program

/-- The chains whose first block no chain of the program names as the block behind its head. -/
def topLevel (program : Program) : List Chain :=
  let referenced := program.filterMap fun c => c.tail.head?.map (·.id)
  program.filter fun c => !referenced.contains c.head.id

/-- The chains that start with a flag hat. -/
def flagged (program : Program) : List Chain :=
  program.filter fun c => c.head.is .whenFlagClicked

end Program

end SpriteStage
