import Mathlib.Data.List.Nodup

namespace SpriteStage.Keyed

variable {β : Type} (key : β → Nat)

/-- A change that leaves the key alone does not show in a test of keys. -/
private theorem key_change (change : β → β) {id : Nat} (hkey : ∀ x, key x = id → key (change x) = id)
    (other : Nat) : (fun x => decide (key x = other)) ∘ (fun x => if key x = id then change x else x) =
      fun x => decide (key x = other) := by
  funext x
  simp only [Function.comp_apply]
  split
  case isTrue hx => rw [hkey x hx, hx]
  case isFalse => rfl

/-- Changing the records with one key changes what is found under that key and nothing else. -/
theorem find?_change (change : β → β) {id : Nat} (hkey : ∀ x, key x = id → key (change x) = id)
    (xs : List β) (other : Nat) :
    (xs.map fun x => if key x = id then change x else x).find? (fun x => key x = other) =
      if other = id then (xs.find? fun x => key x = id).map change
      else xs.find? fun x => key x = other := by
  rw [List.find?_map, key_change key change hkey]
  cases hfound : xs.find? fun x => key x = other with
  | none =>
    split
    case isTrue hid => rw [← hid, hfound]; rfl
    case isFalse => rfl
  | some x =>
    have hx : key x = other := by simpa using List.find?_some hfound
    split
    case isTrue hid => simp [← hid, hfound, hx]
    case isFalse hid => simp [hx, hid]

/-- Changing the records with one key changes all records with that key and no others. -/
theorem filter_change (change : β → β) {id : Nat} (hkey : ∀ x, key x = id → key (change x) = id)
    (xs : List β) (other : Nat) :
    (xs.map fun x => if key x = id then change x else x).filter (fun x => key x = other) =
      if other = id then (xs.filter fun x => key x = id).map change
      else xs.filter fun x => key x = other := by
  rw [List.filter_map, key_change key change hkey]
  split
  case isTrue hid =>
    rw [hid]
    apply List.map_congr_left
    intro x hx
    have hx : key x = id := by simpa using (List.mem_filter.1 hx).2
    exact if_pos hx
  case isFalse hid =>
    rw [List.map_congr_left, List.map_id]
    intro x hx
    have hx : key x = other := by simpa using (List.mem_filter.1 hx).2
    exact if_neg (hx ▸ hid)

/-- After the removal of a key nothing is found under it, and under all other keys what
    was there. -/
theorem find?_remove (xs : List β) (id other : Nat) :
    (xs.filter fun x => key x ≠ id).find? (fun x => key x = other) =
      if other = id then none else xs.find? fun x => key x = other := by
  rw [List.find?_filter]
  split
  case isTrue hid =>
    apply List.find?_eq_none.2
    intro x _
    simp [hid]
  case isFalse hid =>
    congr 1
    funext x
    by_cases hx : key x = other <;> simp [hx, hid]

/-- A record added at the end is found only where there was none with its key before. -/
theorem find?_add {y : β} (xs : List β) (other : Nat) :
    (xs ++ [y]).find? (fun x => key x = other) =
      (xs.find? fun x => key x = other).or (if key y = other then some y else none) := by
  rw [List.find?_append, List.find?_singleton]
  simp

/-- Where no key occurs twice, every record is the one that is found under its key. -/
theorem find?_of_mem {xs : List β} (hnodup : (xs.map key).Nodup) {x : β} (hx : x ∈ xs) :
    xs.find? (fun y => key y = key x) = some x := by
  cases hfound : xs.find? fun y => key y = key x with
  | none => simpa using List.find?_eq_none.1 hfound x hx
  | some y =>
    have hkey : key y = key x := by simpa using List.find?_some hfound
    rw [List.inj_on_of_nodup_map hnodup (List.mem_of_find?_eq_some hfound) hx hkey]

/-- Where no key occurs twice, the records before and behind one have other keys. -/
private theorem ne_of_nodup_middle {front back : List β} {x : β}
    (hnodup : ((front ++ x :: back).map key).Nodup) {y : β} (hy : y ∈ front ∨ y ∈ back) :
    key y ≠ key x := by
  rw [List.map_append, List.map_cons, List.nodup_middle, List.nodup_cons, List.mem_append,
    not_or] at hnodup
  obtain ⟨⟨hfront, hback⟩, _⟩ := hnodup
  intro hkey
  rcases hy with hy | hy
  · exact hfront (hkey ▸ List.mem_map_of_mem hy)
  · exact hback (hkey ▸ List.mem_map_of_mem hy)

/-- Where no key occurs twice, a change under a key is a change of one record in its place. -/
theorem change_middle {front back : List β} {x : β} (hnodup : ((front ++ x :: back).map key).Nodup)
    (change : β → β) : ((front ++ x :: back).map fun y => if key y = key x then change y else y) =
      front ++ change x :: back := by
  have hothers {ys : List β} (hys : ∀ y ∈ ys, y ∈ front ∨ y ∈ back) :
      (ys.map fun y => if key y = key x then change y else y) = ys := by
    rw [List.map_congr_left, List.map_id]
    intro y hy
    exact if_neg (ne_of_nodup_middle key hnodup (hys y hy))
  rw [List.map_append, List.map_cons, hothers fun _ => Or.inl, hothers fun _ => Or.inr, if_pos rfl]

/-- Where no key occurs twice, the removal of a key takes one record out of its place. -/
theorem remove_middle {front back : List β} {x : β} (hnodup : ((front ++ x :: back).map key).Nodup) :
    ((front ++ x :: back).filter fun y => key y ≠ key x) = front ++ back := by
  have hothers {ys : List β} (hys : ∀ y ∈ ys, y ∈ front ∨ y ∈ back) :
      (ys.filter fun y => key y ≠ key x) = ys := by
    apply List.filter_eq_self.2
    intro y hy
    simpa using ne_of_nodup_middle key hnodup (hys y hy)
  rw [List.filter_append, List.filter_cons_of_neg (by simp), hothers fun _ => Or.inl,
    hothers fun _ => Or.inr]

/-- A change of the records with the key of one of them changes that one alone. -/
theorem map_change {xs : List β} (hnodup : (xs.map key).Nodup) {x : β} (hx : x ∈ xs)
    (change : β → β) : ∃ front back, xs = front ++ x :: back ∧
      (xs.map fun y => if key y = key x then change y else y) = front ++ change x :: back := by
  obtain ⟨front, back, rfl⟩ := List.append_of_mem hx
  exact ⟨front, back, rfl, change_middle key hnodup change⟩

/-- Records are told apart by their keys and their places among those with the same key. -/
theorem eq_of_filter {xs ys : List β} (hkeys : xs.map key = ys.map key)
    (hfilter : ∀ id, xs.filter (fun x => key x = id) = ys.filter fun x => key x = id) : xs = ys := by
  induction xs generalizing ys with
  | nil => exact (List.map_eq_nil_iff.1 hkeys.symm).symm
  | cons x rest ih =>
    cases ys with
    | nil => simp at hkeys
    | cons y others =>
      rw [List.map_cons, List.map_cons, List.cons.injEq] at hkeys
      obtain ⟨hkey, hkeys⟩ := hkeys
      have hfirst := hfilter (key x)
      simp only [List.filter_cons, hkey, decide_true, if_true, List.cons.injEq] at hfirst
      obtain ⟨rfl, hsame⟩ := hfirst
      congr 1
      apply ih hkeys
      intro id
      by_cases hid : key x = id
      · rw [← hid]
        exact hsame
      · have hrest := hfilter id
        simpa [List.filter_cons, hid] using hrest

end SpriteStage.Keyed
