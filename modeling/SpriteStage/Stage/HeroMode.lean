import SpriteStage.Stage.Store

namespace SpriteStage

/-- Two sprites, the smaller id first. -/
structure Pair where
  low : Nat
  high : Nat
deriving DecidableEq, Repr

namespace Pair

def of (a b : Nat) : Pair :=
  if a ≤ b then ⟨a, b⟩ else ⟨b, a⟩

def involves (p : Pair) (id : Nat) : Bool :=
  p.low = id || p.high = id

end Pair

namespace Store

variable {α : Type} [Scalar α]

/-- The pairs in a list of sprites whose boxes overlap, every sprite with the ones behind it. -/
def pairsAmong : List (Sprite α) → List Pair
  | [] => []
  | s :: rest =>
    (rest.filter fun other => s.box.overlaps other.box).map (fun other => Pair.of s.id other.id)
      ++ pairsAmong rest

/-- The pairs of sprites whose boxes overlap, in ascending order. -/
def overlappingPairs (store : Store α) : List Pair :=
  pairsAmong store.sprites

omit [Scalar α] in
/-- Two sprites trade what they say and their programs. -/
def swapPayload (pair : Pair) (store : Store α) : Store α :=
  match store.get? pair.low, store.get? pair.high with
  | some a, some b =>
    (store.update pair.low fun s => { s with speech := b.speech, program := b.program }).update
      pair.high fun s => { s with speech := a.speech, program := a.program }
  | _, _ => store

end Store

/-- The state of Hero Mode: whether it is on, and the pairs known to overlap. -/
structure HeroMode where
  enabled : Bool
  colliding : List Pair

namespace HeroMode

def off : HeroMode := ⟨false, []⟩

/-- Switches the mode. Switching it off forgets every pair, so that overlaps which still exist count
    as new when it is switched on again. -/
def switch (enabled : Bool) (mode : HeroMode) : HeroMode :=
  ⟨enabled, if enabled then mode.colliding else []⟩

def forget (id : Nat) (mode : HeroMode) : HeroMode :=
  { mode with colliding := mode.colliding.filter fun pair => !pair.involves id }

variable {α : Type} [Scalar α]

/-- The overlapping pairs that are not known yet; there are none while the mode is off. -/
def newContacts (mode : HeroMode) (store : Store α) : List Pair :=
  if mode.enabled then store.overlappingPairs.filter fun pair => !mode.colliding.contains pair
  else []

/-- The store after every new contact has traded, in ascending order. -/
def settle (mode : HeroMode) (store : Store α) : Store α :=
  (mode.newContacts store).foldl (fun store pair => store.swapPayload pair) store

/-- The mode after it has looked at a store. -/
def observe (mode : HeroMode) (store : Store α) : HeroMode :=
  if mode.enabled then { mode with colliding := store.overlappingPairs } else mode

end HeroMode

end SpriteStage
