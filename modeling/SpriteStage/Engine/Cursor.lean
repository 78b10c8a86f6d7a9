import SpriteStage.Engine.Effect

namespace SpriteStage

/-- The number of copies that a repeat count asks for, rounded up and at most `limit`. NaN and
    counts that are not positive ask for none. The limit is compared with the count as a double. -/
def copies (times : Float) (limit : Nat) : Nat :=
  match Number.value times with
  | .nan => 0
  | .infinite negative => if negative then 0 else limit
  | .finite b =>
    -- the limit is whole as a double too, so the count need not be rounded up to be compared with it
    if Number.ofInt limit < times then limit else b.ceil

/-- The block under a new id, made from its own and a number. -/
def Block.copy (b : Block) (number : Nat) : Block :=
  { b with id := b.id ++ "~" ++ toString number }

namespace Chain

/-- The copies of the first block with the `count` numbers behind `first`, in front of `rest`. They
    are put there one by one, the last one first, and each without what followed the block. -/
def spliceCopies (c : Chain) (first : Nat) : Nat → List Block → List Block
  | 0, rest => rest
  | count + 1, rest => c.spliceCopies first count (c.head.copy (first + count + 1) :: rest)

/-- What follows a repeat: the copies of the block before it, numbered on from `serial`, and then
    the successor of the repeat. Without a block before it, it is the successor alone. Also gives
    the last number used. -/
def expandRepeat (template : Option Chain) (times : Float) (successor : List Block)
    (limit serial : Nat) : List Block × Nat :=
  match template with
  | none => (successor, serial)
  | some c =>
    let count := copies times limit
    (c.spliceCopies serial count successor, serial + count)

end Chain

/-- What follows a repeat, where the block before it is on its own. -/
def Block.expandRepeat (template : Option Block) (times : Float) (successor : List Block)
    (limit serial : Nat) : List Block × Nat :=
  Chain.expandRepeat (template.map fun b => ⟨b, []⟩) times successor limit serial

/-- A place in a chain that is being walked. -/
structure Cursor where
  /-- The blocks that are due, the next one first. -/
  rest : List Block
  /-- The block dispatched last. -/
  previous : Option Block
  /-- How many blocks were dispatched. -/
  steps : Nat
  /-- The last number given to a copy. -/
  serial : Nat

/-- What a walk comes to next. -/
inductive Turn where
  | finished
  /-- A block is due, but the step limit is reached. -/
  | runaway
  /-- A block is due; the place is the one behind it. -/
  | due (block : Block) (behind : Cursor)

namespace Cursor

def start (c : Chain) : Cursor := ⟨c.toList, none, 0, 0⟩

/-- The place behind a block, given the blocks that followed it. -/
def leave (b : Block) (rest : List Block) (c : Cursor) : Cursor :=
  ⟨rest, some b, c.steps + 1, c.serial⟩

/-- The same place with copies of a block in front of what is due. -/
def splice (template : Option Block) (times : Float) (limit : Nat) (c : Cursor) : Cursor :=
  let (rest, serial) := Block.expandRepeat template times c.rest limit c.serial
  { c with rest := rest, serial := serial }

def advance (limit : Nat) (c : Cursor) : Turn :=
  match c.rest with
  | [] => .finished
  | b :: rest => if limit ≤ c.steps then .runaway else .due b (c.leave b rest)

end Cursor

/-- The message about a chain that was stopped at the step limit. -/
def runawayMessage (limit : Nat) : String :=
  "chain dispatched more than " ++ toString limit ++ " blocks and was stopped as runaway"

end SpriteStage
