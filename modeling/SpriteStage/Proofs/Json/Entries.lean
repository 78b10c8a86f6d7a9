import SpriteStage.Json.Basic

namespace SpriteStage.Entries

variable {β : Type}

/-- A new key is put at the end. -/
theorem put_of_notMem {key : String} {entries : Entries β} (hkey : key ∉ entries.map Prod.fst)
    (value : β) : put key value entries = entries ++ [(key, value)] := by
  induction entries with
  | nil => rfl
  | cons entry rest ih =>
    rw [List.map_cons, List.mem_cons, not_or] at hkey
    rw [put, if_neg (Ne.symm hkey.1), ih hkey.2, List.cons_append]

/-- Entries with keys of their own are added at the end. -/
theorem merge_of_nodup {entries added : Entries β} (hkeys : ((entries ++ added).map Prod.fst).Nodup) :
    entries.merge added = entries ++ added := by
  induction added generalizing entries with
  | nil => rw [merge, List.foldl_nil, List.append_nil]
  | cons entry rest ih =>
    obtain ⟨key, value⟩ := entry
    have hkey : key ∉ entries.map Prod.fst := by
      rw [List.map_append, List.nodup_append] at hkeys
      exact fun hmem => hkeys.2.2 key hmem key List.mem_cons_self rfl
    rw [List.append_cons] at hkeys ⊢
    rw [← ih hkeys, ← put_of_notMem hkey]
    rfl

/-- Where no key is repeated there is nothing to leave out. -/
theorem distinct_of_nodup {entries : Entries β} (hkeys : (entries.map Prod.fst).Nodup) :
    entries.distinct = entries := by
  rw [distinct, merge_of_nodup (by simpa using hkeys), List.nil_append]

/-- An entry that is there after a put was there before, or is the one that was put. -/
theorem mem_put {key : String} {value : β} {entries : Entries β} {entry : String × β}
    (hentry : entry ∈ put key value entries) : entry ∈ entries ∨ entry = (key, value) := by
  induction entries with
  | nil => simpa [put] using hentry
  | cons first rest ih =>
    obtain ⟨k, v⟩ := first
    rw [put] at hentry
    split at hentry
    case isTrue hkey =>
      rcases List.mem_cons.1 hentry with rfl | hmem
      · exact Or.inr (by rw [hkey])
      · exact Or.inl (List.mem_cons_of_mem _ hmem)
    case isFalse =>
      rcases List.mem_cons.1 hentry with rfl | hmem
      · exact Or.inl List.mem_cons_self
      · exact (ih hmem).imp_left (List.mem_cons_of_mem _)

/-- A put brings in no key but its own. -/
theorem mem_keys_put {key other : String} {value : β} {entries : Entries β}
    (hother : other ∈ (put key value entries).map Prod.fst) :
    other ∈ entries.map Prod.fst ∨ other = key := by
  obtain ⟨entry, hentry, rfl⟩ := List.mem_map.1 hother
  rcases mem_put hentry with hmem | rfl
  · exact Or.inl (List.mem_map_of_mem hmem)
  · exact Or.inr rfl

/-- A put keeps every key once. -/
theorem nodup_put {key : String} {value : β} {entries : Entries β}
    (hkeys : (entries.map Prod.fst).Nodup) : ((put key value entries).map Prod.fst).Nodup := by
  induction entries with
  | nil => simp [put]
  | cons first rest ih =>
    obtain ⟨k, v⟩ := first
    rw [List.map_cons, List.nodup_cons] at hkeys
    rw [put]
    split
    case isTrue => simpa using hkeys
    case isFalse hne =>
      rw [List.map_cons, List.nodup_cons]
      refine ⟨?_, ih hkeys.2⟩
      intro hmem
      rcases mem_keys_put hmem with hold | hnew
      · exact hkeys.1 hold
      · exact hne hnew

/-- The first entry is found under its key, and it hides no other key. -/
theorem get?_cons (k key : String) (value : β) (rest : Entries β) :
    get? ((k, value) :: rest) key = if key = k then some value else get? rest key := by
  unfold get?
  rw [List.lookup_cons]
  by_cases hkey : key = k
  · rw [if_pos hkey, beq_iff_eq.2 hkey]
  · rw [if_neg hkey, beq_eq_false_iff_ne.2 hkey]

/-- Nothing is found under a key exactly if it is no key of the entries. -/
theorem get?_eq_none_iff {entries : Entries β} {key : String} :
    entries.get? key = none ↔ key ∉ entries.map Prod.fst := by
  induction entries with
  | nil => simp [get?]
  | cons entry rest ih =>
    obtain ⟨k, value⟩ := entry
    rw [get?_cons, List.map_cons, List.mem_cons, not_or]
    split
    case isTrue hkey => simp [hkey]
    case isFalse hkey =>
      rw [ih]
      exact ⟨fun hrest => ⟨hkey, hrest⟩, And.right⟩

/-- A put shows under its key and under no other. -/
theorem get?_put (k key : String) (value : β) (entries : Entries β) :
    get? (put k value entries) key = if key = k then some value else entries.get? key := by
  induction entries with
  | nil => rw [put, get?_cons]
  | cons entry rest ih =>
    obtain ⟨first, old⟩ := entry
    rw [put]
    split
    case isTrue hfirst =>
      rw [get?_cons, get?_cons, hfirst]
      split <;> rfl
    case isFalse hfirst =>
      rw [get?_cons, get?_cons, ih]
      by_cases hkey : key = first
      · have hne : key ≠ k := fun hsame => hfirst (hkey ▸ hsame)
        rw [if_pos hkey, if_neg hne, if_pos hkey]
      · rw [if_neg hkey, if_neg hkey]

/-- What is merged in goes before what was there. -/
theorem get?_merge {added : Entries β} (hkeys : (added.map Prod.fst).Nodup) (entries : Entries β)
    (key : String) : (entries.merge added).get? key = (added.get? key).or (entries.get? key) := by
  induction added generalizing entries with
  | nil => rfl
  | cons entry rest ih =>
    obtain ⟨k, value⟩ := entry
    rw [List.map_cons, List.nodup_cons] at hkeys
    have hmerge : merge entries ((k, value) :: rest) = merge (put k value entries) rest := rfl
    rw [hmerge, ih hkeys.2, get?_put, get?_cons]
    split
    case isTrue hkey =>
      subst hkey
      rw [get?_eq_none_iff.2 hkeys.1]
      rfl
    case isFalse => rfl

/-- A put of a key that is there leaves the keys in their places. -/
theorem keys_put_of_mem {key : String} {entries : Entries β} (hkey : key ∈ entries.map Prod.fst)
    (value : β) : (put key value entries).map Prod.fst = entries.map Prod.fst := by
  induction entries with
  | nil => cases hkey
  | cons entry rest ih =>
    obtain ⟨k, old⟩ := entry
    rw [put]
    split
    case isTrue => rfl
    case isFalse hne =>
      have hrest : key ∈ rest.map Prod.fst := (List.mem_cons.1 hkey).resolve_left (Ne.symm hne)
      rw [List.map_cons, List.map_cons, ih hrest]

theorem eraseDups_of_nodup {keys : List String} (hkeys : keys.Nodup) : keys.eraseDups = keys := by
  induction keys with
  | nil => rfl
  | cons key rest ih =>
    rw [List.nodup_cons] at hkeys
    have hrest : rest.filter (fun other => !other == key) = rest := by
      rw [List.filter_eq_self]
      intro other hother
      have hne : other ≠ key := fun hsame => hkeys.1 (hsame ▸ hother)
      simpa using hne
    rw [List.eraseDups_cons, hrest, ih hkeys.2]

/-- Merged entries have every key in the place of its first mention. -/
theorem keys_merge {entries : Entries β} (hkeys : (entries.map Prod.fst).Nodup) (added : Entries β) :
    (entries.merge added).map Prod.fst = (entries.map Prod.fst ++ added.map Prod.fst).eraseDups := by
  induction added generalizing entries with
  | nil => rw [merge, List.foldl_nil, List.map_nil, List.append_nil, eraseDups_of_nodup hkeys]
  | cons entry rest ih =>
    obtain ⟨key, value⟩ := entry
    have hmerge : merge entries ((key, value) :: rest) = merge (put key value entries) rest := rfl
    rw [hmerge, ih (nodup_put hkeys), List.map_cons]
    by_cases hkey : key ∈ entries.map Prod.fst
    · rw [keys_put_of_mem hkey, List.eraseDups_append, List.eraseDups_append]
      simp [List.removeAll, hkey]
    · rw [put_of_notMem hkey, List.map_append, List.append_assoc]
      rfl

end SpriteStage.Entries
