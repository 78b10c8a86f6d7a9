import SpriteStage.Proofs.Store.Lookup

namespace SpriteStage.Store

variable {α : Type}

/-- The slots stand in ascending order of ids that were given out, and each of them holds the sprite
    with its own id. -/
structure WellFormed (store : Store α) : Prop where
  ascending : store.ids.Pairwise (· < ·)
  lt_nextId : ∀ id ∈ store.ids, id < store.nextId
  sprite_id : ∀ slot ∈ store.slots, slot.sprite.id = slot.id

/-- An update leaves the ids in their places. -/
@[simp] theorem ids_update (store : Store α) (id : Nat) (change : Sprite α → Sprite α) :
    (store.update id change).ids = store.ids := by
  unfold ids update
  rw [List.map_map]
  apply List.map_congr_left
  intro slot _
  rw [Function.comp_apply]
  split
  case isTrue hid => exact hid.symm
  case isFalse => rfl

/-- An update of a sprite that is not there does nothing. -/
theorem update_of_unknown {store : Store α} {id : Nat} (hunknown : ¬ store.contains id = true)
    (change : Sprite α → Sprite α) : store.update id change = store := by
  rw [← mem_ids_iff_contains] at hunknown
  have hslots : (store.update id change).slots = store.slots.map fun slot => slot := by
    apply List.map_congr_left
    intro slot hslot
    have hmem : slot.id ∈ store.ids := List.mem_map_of_mem hslot
    apply if_neg
    rintro rfl
    exact hunknown hmem
  rw [List.map_id'] at hslots
  exact congrArg (Store.mk · store.nextId store.selected) hslots

/-- A trade leaves the ids in their places. -/
@[simp] theorem ids_swapPayload (pair : Pair) (store : Store α) :
    (store.swapPayload pair).ids = store.ids := by
  unfold swapPayload
  split
  · rw [ids_update, ids_update]
  · rfl

namespace WellFormed

theorem empty : WellFormed (.empty : Store α) :=
  ⟨List.Pairwise.nil, nofun, nofun⟩

/-- Every slot is the one that is found under its id. -/
theorem slot?_of_mem {store : Store α} (h : store.WellFormed) {slot : Slot α}
    (hslot : slot ∈ store.slots) : store.slot? slot.id = some slot := by
  have hnodup : (store.slots.map (·.id)).Nodup := h.ascending.imp Nat.ne_of_lt
  exact Keyed.find?_of_mem Slot.id hnodup hslot

/-- Every slot holds the sprite that is found under its id. -/
theorem get?_of_mem {store : Store α} (h : store.WellFormed) {slot : Slot α}
    (hslot : slot ∈ store.slots) : store.get? slot.id = some slot.sprite := by
  rw [get?, h.slot?_of_mem hslot, Option.map_some]

/-- The sprite that is found under an id has that id. -/
theorem id_of_get? {store : Store α} (h : store.WellFormed) {id : Nat} {sprite : Sprite α}
    (hsprite : store.get? id = some sprite) : sprite.id = id := by
  obtain ⟨slot, hslot, rfl⟩ := Option.map_eq_some_iff.1 hsprite
  rw [h.sprite_id slot (List.mem_of_find?_eq_some hslot)]
  simpa using List.find?_some hslot

theorem update {store : Store α} (h : store.WellFormed) (id : Nat) (change : Sprite α → Sprite α) :
    (store.update id change).WellFormed := by
  refine ⟨?_, ?_, ?_⟩
  · rw [ids_update]
    exact h.ascending
  · rw [ids_update]
    exact h.lt_nextId
  · intro slot hslot
    obtain ⟨old, hold, rfl⟩ := List.mem_map.1 hslot
    split
    case isTrue => rfl
    case isFalse => exact h.sprite_id old hold

/-- A new sprite keeps a store well-formed: its id is above all that are there. -/
theorem add [Scalar α] {store : Store α} (h : store.WellFormed) (kind : SpriteKind) :
    (store.add kind).WellFormed := by
  have hids : (store.add kind).ids = store.ids ++ [store.nextId] := List.map_append
  refine ⟨?_, ?_, ?_⟩
  · rw [hids, List.pairwise_append]
    refine ⟨h.ascending, List.pairwise_singleton _ _, ?_⟩
    intro id hid other hother
    rw [List.mem_singleton.1 hother]
    exact h.lt_nextId id hid
  · intro id hid
    change id < store.nextId + 1
    rw [hids, List.mem_append, List.mem_singleton] at hid
    rcases hid with hold | hnew
    · exact Nat.lt_succ_of_lt (h.lt_nextId id hold)
    · omega
  · intro slot hslot
    rcases List.mem_append.1 hslot with hold | hnew
    · exact h.sprite_id slot hold
    · rw [List.mem_singleton.1 hnew]
      rfl

theorem remove {store : Store α} (h : store.WellFormed) (id : Nat) : (store.remove id).WellFormed := by
  have hids : (store.remove id).ids.Sublist store.ids := List.filter_sublist.map _
  refine ⟨h.ascending.sublist hids, fun other hother => h.lt_nextId other (hids.subset hother), ?_⟩
  intro slot hslot
  exact h.sprite_id slot (List.mem_filter.1 hslot).1

theorem select {store : Store α} (h : store.WellFormed) (id : Nat) : (store.select id).WellFormed := by
  unfold Store.select
  split
  · exact ⟨h.ascending, h.lt_nextId, h.sprite_id⟩
  · exact h

theorem unselect {store : Store α} (h : store.WellFormed) : store.unselect.WellFormed :=
  ⟨h.ascending, h.lt_nextId, h.sprite_id⟩

theorem swapPayload {store : Store α} (h : store.WellFormed) (pair : Pair) :
    (store.swapPayload pair).WellFormed := by
  unfold Store.swapPayload
  split
  · exact (h.update _ _).update _ _
  · exact h

/-- Updates one after the other keep a store well-formed. -/
theorem foldl_update {store : Store α} (h : store.WellFormed) (ids : List Nat)
    (change : Sprite α → Sprite α) :
    (ids.foldl (fun store id => store.update id change) store).WellFormed := by
  induction ids generalizing store with
  | nil => exact h
  | cons id rest ih => exact ih (h.update id change)

end WellFormed

end SpriteStage.Store
