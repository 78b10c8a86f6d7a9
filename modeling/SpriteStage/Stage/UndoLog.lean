import SpriteStage.Sprite.Basic

namespace SpriteStage

/-- A whole sprite as it was before a run. -/
structure UndoEntry (α : Type) where
  id : Nat
  prior : Sprite α

/-- The runs that can be undone. -/
structure UndoLog (α : Type) where
  /-- The newest entry is the first. -/
  entries : List (UndoEntry α)

namespace UndoLog

variable {α : Type}

def empty : UndoLog α := ⟨[]⟩

def push (id : Nat) (prior : Sprite α) (log : UndoLog α) : UndoLog α :=
  ⟨⟨id, prior⟩ :: log.entries⟩

/-- The newest entry and the log without it. -/
def pop? (log : UndoLog α) : Option (UndoEntry α × UndoLog α) :=
  match log.entries with
  | [] => none
  | entry :: rest => some (entry, ⟨rest⟩)

/-- Drops the entries of one sprite. -/
def forget (id : Nat) (log : UndoLog α) : UndoLog α :=
  ⟨log.entries.filter (·.id ≠ id)⟩

def length (log : UndoLog α) : Nat := log.entries.length

end UndoLog

end SpriteStage
