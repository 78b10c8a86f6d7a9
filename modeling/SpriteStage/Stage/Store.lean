import SpriteStage.Sprite.Geometry

namespace SpriteStage

/-- The place of one sprite in the store. -/
structure Slot (α : Type) where
  id : Nat
  version : Nat
  sprite : Sprite α

/-- The sprites in ascending order of their ids, the next id to give out, and the selection. -/
structure Store (α : Type) where
  slots : List (Slot α)
  nextId : Nat
  selected : Option Nat

namespace Store

variable {α : Type}

def empty : Store α := ⟨[], 1, none⟩

def slot? (store : Store α) (id : Nat) : Option (Slot α) :=
  store.slots.find? (·.id = id)

def get? (store : Store α) (id : Nat) : Option (Sprite α) :=
  (store.slot? id).map (·.sprite)

def version? (store : Store α) (id : Nat) : Option Nat :=
  (store.slot? id).map (·.version)

def contains (store : Store α) (id : Nat) : Bool :=
  (store.slot? id).isSome

def ids (store : Store α) : List Nat :=
  store.slots.map (·.id)

def sprites (store : Store α) : List (Sprite α) :=
  store.slots.map (·.sprite)

/-- Adds a fresh sprite; the new id is the one that was next. -/
def add [Scalar α] (kind : SpriteKind) (store : Store α) : Store α :=
  { store with
    slots := store.slots ++ [⟨store.nextId, 0, .fresh store.nextId kind⟩]
    nextId := store.nextId + 1 }

/-- Takes a sprite off the stage, and out of the selection. -/
def remove (id : Nat) (store : Store α) : Store α :=
  { store with
    slots := store.slots.filter (·.id ≠ id)
    selected := store.selected.filter (· ≠ id) }

/-- Changes one sprite, which keeps its id and gets a new version; an unknown id changes nothing. -/
def update (id : Nat) (change : Sprite α → Sprite α) (store : Store α) : Store α :=
  { store with
    slots := store.slots.map fun slot =>
      if slot.id = id then ⟨id, slot.version + 1, { change slot.sprite with id := id }⟩ else slot }

/-- Selects a sprite of the store; an unknown id changes nothing. -/
def select (id : Nat) (store : Store α) : Store α :=
  if store.contains id then { store with selected := some id } else store

def unselect (store : Store α) : Store α :=
  { store with selected := none }

/-- The selected sprite, or the first one if none is selected. -/
def effectiveSelection (store : Store α) : Option Nat :=
  (store.selected.filter store.contains).or store.ids.head?

end Store

end SpriteStage
