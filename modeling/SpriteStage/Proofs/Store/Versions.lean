import SpriteStage.Proofs.Store.Lookup

namespace SpriteStage.Store

variable {α : Type}

theorem slot?_remove (store : Store α) (id other : Nat) :
    (store.remove id).slot? other = if other = id then none else store.slot? other :=
  Keyed.find?_remove Slot.id store.slots id other

theorem slot?_add [Scalar α] (kind : SpriteKind) (store : Store α) (other : Nat) :
    (store.add kind).slot? other = (store.slot? other).or
      (if store.nextId = other then some ⟨store.nextId, 0, .fresh store.nextId kind⟩ else none) :=
  Keyed.find?_add Slot.id store.slots other

/-- The later store has given out further ids. A sprite with an id of the earlier one is the sprite that
    was there, and unless its slot is as it was it has got a higher version. -/
structure Precedes (before after : Store α) : Prop where
  nextId_le : before.nextId ≤ after.nextId
  slot? : ∀ id new, id < before.nextId → after.slot? id = some new →
    ∃ old, before.slot? id = some old ∧ (new = old ∨ old.version < new.version)

namespace Precedes

theorem refl (store : Store α) : store.Precedes store :=
  ⟨Nat.le_refl _, fun _ slot _ hslot => ⟨slot, hslot, Or.inl rfl⟩⟩

theorem trans {first middle last : Store α} (hfirst : first.Precedes middle)
    (hlast : middle.Precedes last) : first.Precedes last := by
  refine ⟨Nat.le_trans hfirst.nextId_le hlast.nextId_le, ?_⟩
  intro id new hid hnew
  obtain ⟨later, hlater, hafter⟩ := hlast.slot? id new (Nat.lt_of_lt_of_le hid hfirst.nextId_le) hnew
  obtain ⟨old, hold, hbefore⟩ := hfirst.slot? id later hid hlater
  refine ⟨old, hold, ?_⟩
  rcases hbefore with rfl | hbefore
  · exact hafter
  · rcases hafter with rfl | hafter
    · exact Or.inr hbefore
    · exact Or.inr (Nat.lt_trans hbefore hafter)

/-- A store with the same slots comes after another. -/
theorem of_slots {before after : Store α} (hslots : after.slots = before.slots)
    (hnext : after.nextId = before.nextId) : before.Precedes after := by
  refine ⟨Nat.le_of_eq hnext.symm, ?_⟩
  intro id new _ hnew
  rw [Store.slot?, hslots] at hnew
  exact ⟨new, hnew, Or.inl rfl⟩

/-- A step that keeps the order of stores keeps it however often it is taken. -/
theorem foldl {β : Type} {step : Store α → β → Store α}
    (hstep : ∀ (store : Store α) x, store.Precedes (step store x)) (xs : List β) (store : Store α) :
    store.Precedes (xs.foldl step store) := by
  induction xs generalizing store with
  | nil => exact refl store
  | cons x rest ih => exact (hstep store x).trans (ih (step store x))

/-- A sprite that is gone does not come back. -/
theorem contains {before after : Store α} (h : before.Precedes after) {id : Nat}
    (hid : id < before.nextId) (hthere : after.contains id = true) : before.contains id = true := by
  obtain ⟨new, hnew⟩ := Option.isSome_iff_exists.1 hthere
  obtain ⟨old, hold, _⟩ := h.slot? id new hid hnew
  exact Option.isSome_iff_exists.2 ⟨old, hold⟩

end Precedes

/-- A store that was updated comes after the one before. -/
theorem precedes_update (store : Store α) (id : Nat) (change : Sprite α → Sprite α) :
    store.Precedes (store.update id change) := by
  refine ⟨Nat.le_refl _, ?_⟩
  intro other new _ hnew
  rw [slot?_update] at hnew
  split at hnew
  case isTrue hid =>
    obtain ⟨old, hold, rfl⟩ := Option.map_eq_some_iff.1 hnew
    exact ⟨old, hid ▸ hold, Or.inr (Nat.lt_succ_self _)⟩
  case isFalse => exact ⟨new, hnew, Or.inl rfl⟩

theorem precedes_add [Scalar α] (store : Store α) (kind : SpriteKind) :
    store.Precedes (store.add kind) := by
  refine ⟨Nat.le_succ _, ?_⟩
  intro other new hother hnew
  rw [slot?_add, if_neg (Nat.ne_of_gt hother), Option.or_none] at hnew
  exact ⟨new, hnew, Or.inl rfl⟩

theorem precedes_remove (store : Store α) (id : Nat) : store.Precedes (store.remove id) := by
  refine ⟨Nat.le_refl _, ?_⟩
  intro other new _ hnew
  rw [slot?_remove] at hnew
  split at hnew
  case isTrue => cases hnew
  case isFalse => exact ⟨new, hnew, Or.inl rfl⟩

theorem precedes_select (store : Store α) (id : Nat) : store.Precedes (store.select id) := by
  unfold select
  split
  · exact .of_slots rfl rfl
  · exact .refl store

theorem precedes_swapPayload (store : Store α) (pair : Pair) :
    store.Precedes (store.swapPayload pair) := by
  unfold swapPayload
  split
  · exact (store.precedes_update _ _).trans (precedes_update _ _ _)
  · exact .refl store

/-- The store after all trades of Hero Mode comes after the one before. -/
theorem precedes_settle [Scalar α] (store : Store α) (mode : HeroMode) :
    store.Precedes (mode.settle store) :=
  .foldl (fun store pair => store.precedes_swapPayload pair) _ store

end SpriteStage.Store
