namespace SpriteStage

/-- What a task watches to learn that it was cancelled. -/
structure Token where
  sprite : Nat
  serial : Nat
deriving DecidableEq, Repr

/-- The work of one sprite: the serials of the tokens of its chains and of its speech timers, and
    the number of chains that are running. -/
structure SpriteWork where
  id : Nat
  chains : Nat
  speech : Nat
  active : Nat
deriving DecidableEq, Repr

/-- The registry of outstanding work. Every sprite with work has one token that its chains watch,
    one token that its speech timers watch, and a count of its running chains. Cancelling takes a
    token out of the registry, and a token that the registry does not hold is cancelled. -/
structure TaskRegistry where
  works : List SpriteWork
  /-- The serial of the next token. -/
  nextSerial : Nat
deriving DecidableEq, Repr

namespace TaskRegistry

def empty : TaskRegistry := ⟨[], 0⟩

def work? (r : TaskRegistry) (id : Nat) : Option SpriteWork :=
  r.works.find? (·.id = id)

/-- The registry has an entry for the sprite, with new tokens if it had none. -/
def ensure (id : Nat) (r : TaskRegistry) : TaskRegistry :=
  match r.work? id with
  | some _ => r
  | none => ⟨r.works ++ [⟨id, r.nextSerial, r.nextSerial + 1, 0⟩], r.nextSerial + 2⟩

/-- Changes the entry of one sprite. -/
def change (id : Nat) (f : SpriteWork → SpriteWork) (r : TaskRegistry) : TaskRegistry :=
  { r with works := r.works.map fun work => if work.id = id then f work else work }

/-- The token that the chains of a sprite watch. -/
def chainToken (r : TaskRegistry) (id : Nat) : Token :=
  ⟨id, (r.work? id).elim r.nextSerial (·.chains)⟩

/-- The token that the speech timers of a sprite watch. -/
def speechToken (r : TaskRegistry) (id : Nat) : Token :=
  ⟨id, (r.work? id).elim (r.nextSerial + 1) (·.speech)⟩

/-- Counts one more running chain of a sprite. The chain watches the `chainToken` of the sprite. -/
def startChain (id : Nat) (r : TaskRegistry) : TaskRegistry :=
  (r.ensure id).change id fun work => { work with active := work.active + 1 }

def isCancelled (r : TaskRegistry) (token : Token) : Bool :=
  match r.work? token.sprite with
  | none => true
  | some work => work.chains ≠ token.serial && work.speech ≠ token.serial

/-- Counts one running chain less, unless the chain was cancelled and so written off before. -/
def finishChain (id : Nat) (token : Token) (r : TaskRegistry) : TaskRegistry :=
  if r.isCancelled token then r
  else r.change id fun work => { work with active := work.active - 1 }

/-- The number of chains of a sprite that are running. -/
def active (r : TaskRegistry) (id : Nat) : Nat :=
  (r.work? id).elim 0 (·.active)

/-- Finishing the chain leaves its sprite without a running chain. -/
def isLast (r : TaskRegistry) (id : Nat) (token : Token) : Bool :=
  !r.isCancelled token && (r.work? id).isSome && r.active id ≤ 1

/-- Cancels the chains of a sprite; later chains watch a new token. -/
def cancelChains (id : Nat) (r : TaskRegistry) : TaskRegistry :=
  match r.work? id with
  | none => r
  | some _ =>
    { r.change id fun work => { work with chains := r.nextSerial, active := 0 } with
      nextSerial := r.nextSerial + 1 }

/-- Cancels the chains and the speech timers of a sprite. -/
def cancelSprite (id : Nat) (r : TaskRegistry) : TaskRegistry :=
  { r with works := r.works.filter (·.id ≠ id) }

/-- Cancels all chains and speech timers. -/
def cancelAll (r : TaskRegistry) : TaskRegistry :=
  { r with works := [] }

end TaskRegistry

end SpriteStage
