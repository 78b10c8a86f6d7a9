import SpriteStage.Json.Source
import SpriteStage.Proofs.Json.Entries

namespace SpriteStage

namespace Json

/-- Every object in the value has each of its keys once. -/
inductive WellFormed : Json → Prop where
  | null : WellFormed .null
  | bool (value : Bool) : WellFormed (.bool value)
  | int (value : Int) : WellFormed (.int value)
  | double (value : Float) : WellFormed (.double value)
  | str (value : String) : WellFormed (.str value)
  | arr {items : List Json} (hitems : ∀ item ∈ items, WellFormed item) : WellFormed (.arr items)
  | obj {entries : List (String × Json)} (hkeys : (entries.map Prod.fst).Nodup)
      (hvalues : ∀ entry ∈ entries, WellFormed entry.2) : WellFormed (.obj entries)

/-- An object is well-formed if it has every key once and well-formed values. -/
@[simp] theorem wellFormed_obj_iff {entries : List (String × Json)} : (Json.obj entries).WellFormed ↔
    (entries.map Prod.fst).Nodup ∧ ∀ entry ∈ entries, entry.2.WellFormed := by
  constructor
  · rintro ⟨⟩
    exact ⟨‹_›, ‹_›⟩
  · rintro ⟨hkeys, hvalues⟩
    exact .obj hkeys hvalues

attribute [simp] WellFormed.null WellFormed.bool WellFormed.int WellFormed.double WellFormed.str

/-- The items of an array are written down one by one. -/
theorem itemsToSource_eq (items : List Json) : itemsToSource items = items.map toSource := by
  induction items with
  | nil => rfl
  | cons item rest ih => rw [itemsToSource, ih, List.map_cons]

/-- The entries of an object are written down one by one, each under its key. -/
theorem entriesToSource_eq (entries : Entries Json) :
    entriesToSource entries = entries.map fun (key, value) => (key, value.toSource) := by
  induction entries with
  | nil => rfl
  | cons entry rest ih =>
    obtain ⟨key, value⟩ := entry
    rw [entriesToSource, ih, List.map_cons]

theorem keys_entriesToSource (entries : Entries Json) :
    (entriesToSource entries).map Prod.fst = entries.map Prod.fst := by
  rw [entriesToSource_eq, List.map_map]
  rfl

/-- What is written down under a key is the value that was there. -/
theorem get?_entriesToSource (entries : Entries Json) (key : String) :
    Entries.get? (entriesToSource entries) key = (Entries.get? entries key).map toSource := by
  induction entries with
  | nil => rfl
  | cons entry rest ih =>
    obtain ⟨k, value⟩ := entry
    unfold Entries.get? at ih ⊢
    rw [entriesToSource, List.lookup_cons, List.lookup_cons, ih]
    split <;> rfl

/-- Leaving out keys and writing down commute. -/
theorem filter_entriesToSource (keep : String → Bool) (entries : Entries Json) :
    (entriesToSource entries).filter (fun (key, _) => keep key) =
      entriesToSource (entries.filter fun (key, _) => keep key) := by
  rw [entriesToSource_eq, entriesToSource_eq, List.filter_map]
  rfl

/-- An array is read back if its items are. -/
theorem toItems?_itemsToSource {items : List Json}
    (hitems : ∀ item ∈ items, item.toSource.toJson? = some item) :
    Source.toItems? (itemsToSource items) = some items := by
  induction items with
  | nil => rfl
  | cons item rest ih =>
    have hrest := ih fun other hother => hitems other (List.mem_cons_of_mem _ hother)
    rw [itemsToSource, Source.toItems?, hitems item List.mem_cons_self, hrest]
    rfl

/-- Entries are read back if their values are. -/
theorem toEntries?_entriesToSource {entries : Entries Json}
    (hvalues : ∀ entry ∈ entries, entry.2.toSource.toJson? = some entry.2) :
    Source.toEntries? (entriesToSource entries) = some entries := by
  induction entries with
  | nil => rfl
  | cons entry rest ih =>
    have hrest := ih fun other hother => hvalues other (List.mem_cons_of_mem _ hother)
    rw [entriesToSource, Source.toEntries?, hvalues entry List.mem_cons_self, hrest]
    rfl

namespace WellFormed

variable {j : Json} {entries : Entries Json}

/-- A well-formed value is read back from its tree. -/
theorem toJson?_toSource (h : j.WellFormed) : j.toSource.toJson? = some j := by
  induction h with
  | null | bool | int | double | str => rfl
  | arr _ ih =>
    rw [toSource, Source.toJson?, toItems?_itemsToSource ih]
    rfl
  | obj hkeys _ ih =>
    rw [toSource, Source.toJson?, toEntries?_entriesToSource ih, Option.map_some,
      Entries.distinct_of_nodup hkeys]

/-- A well-formed object has every key once. -/
theorem keys (h : (Json.obj entries).WellFormed) : (entries.map Prod.fst).Nodup :=
  (wellFormed_obj_iff.1 h).1

/-- The values of a well-formed object are well-formed. -/
theorem values (h : (Json.obj entries).WellFormed) : ∀ entry ∈ entries, entry.2.WellFormed :=
  (wellFormed_obj_iff.1 h).2

theorem empty : (Json.obj []).WellFormed :=
  .obj List.nodup_nil nofun

/-- Leaving out entries leaves an object well-formed. -/
theorem filter (h : (Json.obj entries).WellFormed) (keep : String × Json → Bool) :
    (Json.obj (entries.filter keep)).WellFormed := by
  refine .obj (h.keys.sublist (List.filter_sublist.map _)) ?_
  intro entry hentry
  exact h.values entry (List.mem_filter.1 hentry).1

/-- Putting a well-formed value under a key leaves an object well-formed. -/
theorem put (h : (Json.obj entries).WellFormed) {value : Json} (hvalue : value.WellFormed)
    (key : String) : (Json.obj (Entries.put key value entries)).WellFormed := by
  refine .obj (Entries.nodup_put h.keys) ?_
  intro entry hentry
  rcases Entries.mem_put hentry with hold | rfl
  · exact h.values entry hold
  · exact hvalue

/-- Merging well-formed values in leaves an object well-formed, even if their keys are repeated. -/
theorem merge {added : Entries Json} (h : (Json.obj entries).WellFormed)
    (hadded : ∀ entry ∈ added, entry.2.WellFormed) :
    (Json.obj (Entries.merge entries added)).WellFormed := by
  induction added generalizing entries with
  | nil => exact h
  | cons entry rest ih =>
    exact ih (h.put (hadded entry List.mem_cons_self) entry.1)
      fun other hother => hadded other (List.mem_cons_of_mem _ hother)

/-- The entries of a well-formed value form a well-formed object. -/
theorem entries? (h : j.WellFormed) (hentries : j.entries? = some entries) :
    (Json.obj entries).WellFormed := by
  cases h with
  | obj hkeys hvalues =>
    cases hentries
    exact .obj hkeys hvalues
  | _ => cases hentries

/-- What a well-formed value holds under a key is well-formed. -/
theorem get? (h : j.WellFormed) {key : String} {value : Json} (hvalue : j.get? key = some value) :
    value.WellFormed := by
  obtain ⟨entries, hentries, hlookup⟩ := Option.bind_eq_some_iff.1 hvalue
  have hmem : (key, value) ∈ entries := by
    obtain ⟨front, back, rfl, _⟩ := List.lookup_eq_some_iff.1 hlookup
    simp
  exact (h.entries? hentries).values _ hmem

end WellFormed

end Json

namespace Source

mutual

/-- Whatever is read is well-formed, since a repeated key is read once. -/
theorem wellFormed_toJson? {source : Source} {j : Json} (hread : source.toJson? = some j) :
    j.WellFormed := by
  match source with
  | .null | .bool _ | .int _ | .double _ | .str _ =>
    cases hread
    simp
  | .arr items =>
    obtain ⟨values, hvalues, rfl⟩ := Option.map_eq_some_iff.1 hread
    exact .arr (wellFormed_toItems? hvalues)
  | .obj entries =>
    obtain ⟨values, hvalues, rfl⟩ := Option.map_eq_some_iff.1 hread
    exact Json.WellFormed.empty.merge (wellFormed_toEntries? hvalues)
  | .unusable => cases hread

/-- The items that are read from an array are well-formed, since reading leaves out
    repeated keys. -/
theorem wellFormed_toItems? {items : List Source} {values : List Json}
    (hread : toItems? items = some values) : ∀ value ∈ values, value.WellFormed := by
  match items with
  | [] =>
    cases hread
    exact nofun
  | item :: rest =>
    simp only [toItems?, Option.bind_eq_bind, Option.pure_def, Option.bind_eq_some_iff,
      Option.some.injEq] at hread
    obtain ⟨head, hhead, tail, htail, rfl⟩ := hread
    exact List.forall_mem_cons.2 ⟨wellFormed_toJson? hhead, wellFormed_toItems? htail⟩

/-- The values that are read from an object are well-formed. -/
theorem wellFormed_toEntries? {entries : List (String × Source)} {values : Entries Json}
    (hread : toEntries? entries = some values) : ∀ entry ∈ values, entry.2.WellFormed := by
  match entries with
  | [] =>
    cases hread
    exact nofun
  | (key, source) :: rest =>
    simp only [toEntries?, Option.bind_eq_bind, Option.pure_def, Option.bind_eq_some_iff,
      Option.some.injEq] at hread
    obtain ⟨head, hhead, tail, htail, rfl⟩ := hread
    exact List.forall_mem_cons.2 ⟨wellFormed_toJson? hhead, wellFormed_toEntries? htail⟩

end

end Source

end SpriteStage
