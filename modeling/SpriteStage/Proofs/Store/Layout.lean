import Mathlib.Data.Prod.Lex
import SpriteStage.Proofs.Store.Order

namespace SpriteStage

/-- A pair involves the two sprites that it is made of. -/
theorem Pair.involves_of (a b id : Nat) :
    (Pair.of a b).involves id = (decide (a = id) || decide (b = id)) := by
  unfold Pair.of Pair.involves
  split
  · rfl
  · exact Bool.or_comm _ _

/-- The place of a pair in the order of pairs, where the smaller id counts first. -/
def Pair.rank (pair : Pair) : Nat ×ₗ Nat :=
  toLex (pair.low, pair.high)

/-- Pairs are in the order of their lower ids first and of their higher ids then. -/
theorem Pair.rank_lt_iff {a b : Pair} :
    a.rank < b.rank ↔ a.low < b.low ∨ a.low = b.low ∧ a.high < b.high :=
  Prod.Lex.toLex_lt_toLex

namespace Store

variable {α : Type} [Scalar α]

/-- The id and the box of every sprite. -/
def layout (store : Store α) : List (Nat × Box α) :=
  store.sprites.map fun s => (s.id, s.box)

/-- The pairs in a layout whose boxes overlap. -/
def pairsIn : List (Nat × Box α) → List Pair
  | [] => []
  | place :: rest =>
    (rest.filter fun other => place.2.overlaps other.2).map (fun other => Pair.of place.1 other.1)
      ++ pairsIn rest

/-- Which pairs overlap is read off the layout. -/
theorem overlappingPairs_eq (store : Store α) : store.overlappingPairs = pairsIn store.layout := by
  unfold overlappingPairs layout
  induction store.sprites with
  | nil => rfl
  | cons s rest ih =>
    rw [pairsAmong, List.map_cons, pairsIn, ← ih, List.filter_map, List.map_map]
    rfl

/-- Stores with the same layout have the same overlapping pairs. -/
theorem overlappingPairs_congr {store other : Store α} (hlayout : store.layout = other.layout) :
    store.overlappingPairs = other.overlappingPairs := by
  rw [overlappingPairs_eq, overlappingPairs_eq, hlayout]

/-- In ascending order a pair is found from its first sprite on, so the smaller id comes first. -/
theorem mem_pairsIn {places : List (Nat × Box α)} (hplaces : (places.map Prod.fst).Pairwise (· < ·))
    {pair : Pair} : pair ∈ pairsIn places ↔ pair.low < pair.high ∧ ∃ a b,
      (pair.low, a) ∈ places ∧ (pair.high, b) ∈ places ∧ a.overlaps b = true := by
  induction places with
  | nil => simp [pairsIn]
  | cons place rest ih =>
    rw [List.map_cons, List.pairwise_cons] at hplaces
    obtain ⟨hfirst, hrest⟩ := hplaces
    have hlt {id : Nat} {box : Box α} (hmem : (id, box) ∈ rest) : place.1 < id :=
      hfirst id (List.mem_map_of_mem hmem)
    rw [pairsIn, List.mem_append, ih hrest]
    constructor
    · rintro (hhere | ⟨hless, a, b, ha, hb, hoverlaps⟩)
      · obtain ⟨other, hother, rfl⟩ := List.mem_map.1 hhere
        obtain ⟨hmem, hoverlaps⟩ := List.mem_filter.1 hother
        have hless := hlt hmem
        rw [Pair.of, if_pos (Nat.le_of_lt hless)]
        exact ⟨hless, place.2, other.2, List.mem_cons_self, List.mem_cons_of_mem _ hmem, hoverlaps⟩
      · exact ⟨hless, a, b, List.mem_cons_of_mem _ ha, List.mem_cons_of_mem _ hb, hoverlaps⟩
    · rintro ⟨hless, a, b, ha, hb, hoverlaps⟩
      rcases List.mem_cons.1 hb with hb | hb
      · rcases List.mem_cons.1 ha with ha | ha
        · rw [← ha, Prod.mk.injEq] at hb
          omega
        · have hbefore := hlt ha
          rw [← hb] at hbefore
          omega
      · rcases List.mem_cons.1 ha with ha | ha
        · refine Or.inl (List.mem_map.2 ⟨(pair.high, b), List.mem_filter.2 ⟨hb, ?_⟩, ?_⟩)
          · rw [← ha]
            exact hoverlaps
          · rw [← ha, Pair.of, if_pos (Nat.le_of_lt hless)]
        · exact Or.inr ⟨hless, a, b, ha, hb, hoverlaps⟩

/-- In ascending order of the places the pairs come in ascending order as well. -/
theorem ascending_pairsIn {places : List (Nat × Box α)}
    (hplaces : (places.map Prod.fst).Pairwise (· < ·)) :
    (pairsIn places).Pairwise fun a b => a.rank < b.rank := by
  induction places with
  | nil => exact List.Pairwise.nil
  | cons place rest ih =>
    rw [List.map_cons, List.pairwise_cons] at hplaces
    obtain ⟨hfirst, hrest⟩ := hplaces
    have hof {other : Nat × Box α} (hmem : other ∈ rest) :
        Pair.of place.1 other.1 = ⟨place.1, other.1⟩ :=
      if_pos (Nat.le_of_lt (hfirst other.1 (List.mem_map_of_mem hmem)))
    rw [pairsIn, List.pairwise_append, List.pairwise_map]
    refine ⟨?_, ih hrest, ?_⟩
    · apply ((List.pairwise_map.1 hrest).filter _).imp_of_mem
      intro a b ha hb hless
      rw [hof (List.mem_of_mem_filter ha), hof (List.mem_of_mem_filter hb), Pair.rank_lt_iff]
      exact Or.inr ⟨rfl, hless⟩
    · intro pair hhere later hlater
      obtain ⟨a, ha, rfl⟩ := List.mem_map.1 hhere
      obtain ⟨_, b, _, hb, _⟩ := (mem_pairsIn hrest).1 hlater
      rw [hof (List.mem_of_mem_filter ha), Pair.rank_lt_iff]
      exact Or.inl (hfirst _ (List.mem_map_of_mem hb))

/-- A sprite that goes takes its own pairs with it and no others. -/
theorem pairsIn_filter (places : List (Nat × Box α)) (id : Nat) :
    pairsIn (places.filter (·.1 ≠ id)) = (pairsIn places).filter fun pair => !pair.involves id := by
  induction places with
  | nil => rfl
  | cons place rest ih =>
    rw [pairsIn, List.filter_append, ← ih, List.filter_map]
    by_cases hid : place.1 = id
    · have hnone : (rest.filter fun other => place.2.overlaps other.2).filter
          ((fun pair => !pair.involves id) ∘ fun other => Pair.of place.1 other.1) = [] := by
        apply List.filter_eq_nil_iff.2
        intro other _
        simp [Pair.involves_of, hid]
      rw [List.filter_cons_of_neg (by simpa using hid), hnone, List.map_nil, List.nil_append]
    · rw [List.filter_cons_of_pos (by simpa using hid), pairsIn, List.filter_filter, List.filter_filter]
      congr 2
      apply List.filter_congr
      intro other _
      simp [Pair.involves_of, hid, Bool.and_comm]

namespace WellFormed

/-- The layout has a place for every sprite, in the order of the store. -/
theorem ids_layout {store : Store α} (h : store.WellFormed) :
    store.layout.map Prod.fst = store.ids := by
  unfold layout sprites ids
  rw [List.map_map, List.map_map]
  exact List.map_congr_left h.sprite_id

/-- The places of the layout are the boxes of the sprites. -/
theorem mem_layout_iff {store : Store α} (h : store.WellFormed) {id : Nat} {box : Box α} :
    (id, box) ∈ store.layout ↔ ∃ sprite, store.get? id = some sprite ∧ sprite.box = box := by
  constructor
  · intro hmem
    obtain ⟨sprite, hsprite, hplace⟩ := List.mem_map.1 hmem
    obtain ⟨slot, hslot, rfl⟩ := List.mem_map.1 hsprite
    rw [Prod.mk.injEq, h.sprite_id slot hslot] at hplace
    obtain ⟨rfl, rfl⟩ := hplace
    exact ⟨slot.sprite, h.get?_of_mem hslot, rfl⟩
  · rintro ⟨sprite, hsprite, rfl⟩
    have hid := h.id_of_get? hsprite
    obtain ⟨slot, hslot, rfl⟩ := Option.map_eq_some_iff.1 hsprite
    rw [← hid]
    exact List.mem_map_of_mem (List.mem_map_of_mem (List.mem_of_find?_eq_some hslot))

/-- A pair overlaps if its sprites are two different ones whose boxes do. -/
theorem mem_overlappingPairs_iff {store : Store α} (h : store.WellFormed) {pair : Pair} :
    pair ∈ store.overlappingPairs ↔ pair.low < pair.high ∧ ∃ a b,
      store.get? pair.low = some a ∧ store.get? pair.high = some b ∧ a.box.overlaps b.box = true := by
  have hids := h.ascending
  rw [← h.ids_layout] at hids
  rw [overlappingPairs_eq, mem_pairsIn hids]
  simp only [h.mem_layout_iff]
  apply and_congr_right
  intro _
  constructor
  · rintro ⟨_, _, ⟨a, ha, rfl⟩, ⟨b, hb, rfl⟩, hoverlaps⟩
    exact ⟨a, b, ha, hb, hoverlaps⟩
  · rintro ⟨a, b, ha, hb, hoverlaps⟩
    exact ⟨_, _, ⟨a, ha, rfl⟩, ⟨b, hb, rfl⟩, hoverlaps⟩

/-- The overlapping pairs come in ascending order. -/
theorem ascending_overlappingPairs {store : Store α} (h : store.WellFormed) :
    store.overlappingPairs.Pairwise fun a b => a.rank < b.rank := by
  have hids := h.ascending
  rw [← h.ids_layout] at hids
  rw [overlappingPairs_eq]
  exact ascending_pairsIn hids

/-- No overlapping pair is listed twice. -/
theorem nodup_overlappingPairs {store : Store α} (h : store.WellFormed) :
    store.overlappingPairs.Nodup := by
  apply h.ascending_overlappingPairs.imp
  rintro a _ hless rfl
  exact lt_irrefl _ hless

/-- A sprite that is removed takes its own pairs with it and no others. -/
theorem overlappingPairs_remove {store : Store α} (h : store.WellFormed) (id : Nat) :
    (store.remove id).overlappingPairs =
      store.overlappingPairs.filter fun pair => !pair.involves id := by
  have hlayout : (store.remove id).layout = store.layout.filter (·.1 ≠ id) := by
    unfold layout sprites Store.remove
    rw [List.map_map, List.map_map, List.filter_map]
    congr 1
    apply List.filter_congr
    intro slot hslot
    simp [h.sprite_id slot hslot]
  rw [overlappingPairs_eq, hlayout, pairsIn_filter, ← overlappingPairs_eq]

/-- A change that leaves a sprite in its box leaves the layout alone. -/
theorem layout_update {store : Store α} (h : store.WellFormed) {id : Nat}
    {change : Sprite α → Sprite α}
    (hkept : ∀ sprite, store.get? id = some sprite → (change sprite).box = sprite.box) :
    (store.update id change).layout = store.layout := by
  unfold layout sprites Store.update
  rw [List.map_map, List.map_map, List.map_map]
  apply List.map_congr_left
  intro slot hslot
  simp only [Function.comp_apply]
  split
  case isTrue hid =>
    have hsprite := h.get?_of_mem hslot
    rw [hid] at hsprite
    rw [h.sprite_id slot hslot, hid, ← hkept slot.sprite hsprite]
    rfl
  case isFalse => rfl

/-- A trade leaves every sprite where it stands. -/
theorem layout_swapPayload {store : Store α} (h : store.WellFormed) (pair : Pair) :
    (store.swapPayload pair).layout = store.layout := by
  unfold Store.swapPayload
  split
  · rw [(h.update _ _).layout_update, h.layout_update]
    all_goals
      intro _ _
      rfl
  · rfl

end WellFormed

end Store

end SpriteStage
