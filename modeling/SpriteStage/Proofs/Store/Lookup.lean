import SpriteStage.Proofs.Keyed
import SpriteStage.Stage.HeroMode

namespace SpriteStage.Store

variable {α : Type}

/-- A sprite is there exactly if it is found. -/
theorem contains_iff_get? (store : Store α) (id : Nat) :
    store.contains id = true ↔ ∃ sprite, store.get? id = some sprite := by
  simp only [contains, get?, Option.isSome_iff_exists, Option.map_eq_some_iff]
  constructor
  · rintro ⟨slot, hslot⟩
    exact ⟨slot.sprite, slot, hslot, rfl⟩
  · rintro ⟨_, slot, hslot, _⟩
    exact ⟨slot, hslot⟩

theorem get?_of_unknown {store : Store α} {id : Nat} (hunknown : ¬ store.contains id = true) :
    store.get? id = none := by
  rwa [contains_iff_get?, ← Option.ne_none_iff_exists', ne_eq, not_not] at hunknown

/-- The ids of a store are those of the sprites that are there. -/
theorem mem_ids_iff_contains (store : Store α) (id : Nat) :
    id ∈ store.ids ↔ store.contains id = true := by
  simp only [ids, contains, slot?, List.mem_map, List.find?_isSome, decide_eq_true_eq]

/-- An update raises the version of its sprite and leaves all other slots alone. -/
theorem slot?_update (store : Store α) (id other : Nat) (change : Sprite α → Sprite α) :
    (store.update id change).slot? other =
      if other = id then
        (store.slot? id).map fun slot => ⟨id, slot.version + 1, { change slot.sprite with id := id }⟩
      else store.slot? other :=
  Keyed.find?_change Slot.id
    (fun slot => ⟨id, slot.version + 1, { change slot.sprite with id := id }⟩) (fun _ _ => rfl)
    store.slots other

/-- An update changes its own sprite alone, and not who that is. -/
theorem get?_update (store : Store α) (id other : Nat) (change : Sprite α → Sprite α) :
    (store.update id change).get? other =
      if other = id then (store.get? id).map fun sprite => { change sprite with id := id }
      else store.get? other := by
  rw [get?, slot?_update]
  split
  case isTrue => simp [get?, Function.comp_def]
  case isFalse => rfl

/-- An update brings no sprite in and takes none out. -/
@[simp] theorem contains_update (store : Store α) (id other : Nat) (change : Sprite α → Sprite α) :
    (store.update id change).contains other = store.contains other := by
  rw [contains, slot?_update]
  split
  case isTrue hid => simp [contains, hid]
  case isFalse => rfl

/-- A new sprite is found under the id that was next, and all others as before. -/
theorem get?_add [Scalar α] (kind : SpriteKind) (store : Store α) (other : Nat) :
    (store.add kind).get? other =
      (store.get? other).or (if store.nextId = other then some (.fresh store.nextId kind) else none) := by
  rw [get?, slot?, add, Keyed.find?_add Slot.id store.slots other]
  simp only [get?, slot?]
  cases store.slots.find? fun slot => slot.id = other with
  | none => split <;> simp
  | some slot => rfl

/-- A sprite that was removed is not found, and all others are as before. -/
theorem get?_remove (store : Store α) (id other : Nat) :
    (store.remove id).get? other = if other = id then none else store.get? other := by
  rw [get?, slot?, remove, Keyed.find?_remove Slot.id store.slots id other]
  split
  case isTrue => rfl
  case isFalse => rfl

/-- Selecting changes no sprite. -/
theorem get?_select (store : Store α) (id other : Nat) :
    (store.select id).get? other = store.get? other := by
  unfold select
  split <;> rfl

@[simp] theorem nextId_select (store : Store α) (id : Nat) :
    (store.select id).nextId = store.nextId := by
  unfold select
  split <;> rfl

/-- A reading of sprites that does not depend on what sprites trade: their speech and program. The id
    counts as traded because an update writes it again. -/
def Untraded {β : Type} (view : Sprite α → β) : Prop :=
  ∀ sprite id speech program,
    view { sprite with id := id, speech := speech, program := program } = view sprite

/-- A trade leaves alone all of a sprite that is not traded. -/
theorem map_get?_swapPayload {β : Type} {view : Sprite α → β} (hview : Untraded view) (pair : Pair)
    (store : Store α) (id : Nat) :
    ((store.swapPayload pair).get? id).map view = (store.get? id).map view := by
  unfold swapPayload
  split
  case h_1 a b hlow hhigh =>
    have hkept (store : Store α) (other : Nat) (speech : Speech) (program : Program) :
        ((store.update other fun s => { s with speech := speech, program := program }).get? id).map view =
          (store.get? id).map view := by
      rw [get?_update]
      split
      case isTrue hid =>
        rw [hid, Option.map_map]
        congr 1
        funext sprite
        exact hview sprite other speech program
      case isFalse => rfl
    rw [hkept, hkept]
  case h_2 => rfl

@[simp] theorem nextId_swapPayload (pair : Pair) (store : Store α) :
    (store.swapPayload pair).nextId = store.nextId := by
  unfold swapPayload
  split <;> rfl

@[simp] theorem selected_swapPayload (pair : Pair) (store : Store α) :
    (store.swapPayload pair).selected = store.selected := by
  unfold swapPayload
  split <;> rfl

/-- Pairs of sprites trade one after the other. -/
def trade (pairs : List Pair) (store : Store α) : Store α :=
  pairs.foldl (fun store pair => store.swapPayload pair) store

/-- Trades are made one after the other. -/
theorem trade_cons (pair : Pair) (pairs : List Pair) (store : Store α) :
    store.trade (pair :: pairs) = (store.swapPayload pair).trade pairs := rfl

/-- A trade leaves alone all of a sprite that is not traded. -/
theorem map_get?_trade {β : Type} {view : Sprite α → β} (hview : Untraded view) (pairs : List Pair)
    (store : Store α) (id : Nat) :
    ((store.trade pairs).get? id).map view = (store.get? id).map view := by
  induction pairs generalizing store with
  | nil => rfl
  | cons pair rest ih => rw [trade_cons, ih, map_get?_swapPayload hview]

/-- Trades give out no id. -/
@[simp] theorem nextId_trade (pairs : List Pair) (store : Store α) :
    (store.trade pairs).nextId = store.nextId := by
  induction pairs generalizing store with
  | nil => rfl
  | cons pair rest ih => rw [trade_cons, ih, nextId_swapPayload]

/-- Trades leave the selection alone. -/
@[simp] theorem selected_trade (pairs : List Pair) (store : Store α) :
    (store.trade pairs).selected = store.selected := by
  induction pairs generalizing store with
  | nil => rfl
  | cons pair rest ih => rw [trade_cons, ih, selected_swapPayload]

end SpriteStage.Store

namespace SpriteStage.HeroMode

variable {α : Type} [Scalar α]

/-- Hero Mode leaves alone all of a sprite that is not traded. -/
theorem map_get?_settle {β : Type} {view : Sprite α → β} (hview : Store.Untraded view)
    (mode : HeroMode) (store : Store α) (id : Nat) :
    ((mode.settle store).get? id).map view = (store.get? id).map view :=
  Store.map_get?_trade hview (mode.newContacts store) store id

@[simp] theorem nextId_settle (mode : HeroMode) (store : Store α) :
    (mode.settle store).nextId = store.nextId :=
  Store.nextId_trade (mode.newContacts store) store

end SpriteStage.HeroMode
