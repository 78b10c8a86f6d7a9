import SpriteStage.Proofs.Store.Payload

namespace SpriteStage

variable {α : Type}

namespace Store

/-- The program of a sprite; nothing for a sprite that is not there. -/
def program? (store : Store α) (id : Nat) : Option Program :=
  (store.get? id).map (·.program)

/-- An update shows in the program of its sprite and of no other. -/
theorem program?_update (store : Store α) (id other : Nat) (change : Sprite α → Sprite α) :
    (store.update id change).program? other =
      if other = id then (store.get? id).map fun sprite => (change sprite).program
      else store.program? other := by
  rw [program?, get?_update]
  split
  case isTrue => rw [Option.map_map]; rfl
  case isFalse => rfl

/-- A trade gives each of two sprites the program of the other. -/
theorem program?_swapPayload (pair : Pair) (store : Store α) (id : Nat) :
    (store.swapPayload pair).program? id =
      match store.program? pair.low, store.program? pair.high with
      | some low, some high =>
        if id = pair.high then some low else if id = pair.low then some high else store.program? id
      | _, _ => store.program? id := by
  unfold swapPayload
  cases hlow : store.get? pair.low with
  | none => simp only [program?, hlow, Option.map_none]
  | some a =>
    cases hhigh : store.get? pair.high with
    | none => simp only [program?, hlow, hhigh, Option.map_none, Option.map_some]
    | some b =>
      have hmiddle : ∃ sprite, (store.update pair.low fun s =>
          { s with speech := b.speech, program := b.program }).get? pair.high = some sprite := by
        rw [← contains_iff_get?, contains_update, contains_iff_get?]
        exact ⟨b, hhigh⟩
      obtain ⟨sprite, hsprite⟩ := hmiddle
      have ha : store.program? pair.low = some a.program := by rw [program?, hlow]; rfl
      have hb : store.program? pair.high = some b.program := by rw [program?, hhigh]; rfl
      simp only [program?_update, hsprite, hlow, ha, hb, Option.map_some]

/-- Which programs the sprites have after trades depends on their programs before alone. -/
theorem program?_trade_congr {store other : Store α}
    (hsame : ∀ id, store.program? id = other.program? id) (pairs : List Pair) (id : Nat) :
    (store.trade pairs).program? id = (other.trade pairs).program? id := by
  induction pairs generalizing store other with
  | nil => exact hsame id
  | cons pair rest ih =>
    rw [trade_cons, trade_cons]
    apply ih
    intro other
    simp only [program?_swapPayload, hsame]

/-- Sprites that all say the same go on saying it when they trade. -/
theorem speech_trade {store : Store α} {speech : Speech}
    (hsame : ∀ id sprite, store.get? id = some sprite → sprite.speech = speech) (pairs : List Pair) :
    ∀ id sprite, (store.trade pairs).get? id = some sprite → sprite.speech = speech := by
  have hupdate {store : Store α} (other : Nat) {change : Sprite α → Sprite α}
      (hsame : ∀ id sprite, store.get? id = some sprite → sprite.speech = speech)
      (hchange : ∀ sprite, (change sprite).speech = speech) :
      ∀ id sprite, (store.update other change).get? id = some sprite → sprite.speech = speech := by
    intro id sprite hsprite
    rw [get?_update] at hsprite
    split at hsprite
    case isTrue =>
      obtain ⟨old, _, rfl⟩ := Option.map_eq_some_iff.1 hsprite
      exact hchange old
    case isFalse => exact hsame id sprite hsprite
  induction pairs generalizing store with
  | nil => exact hsame
  | cons pair rest ih =>
    rw [trade_cons]
    apply ih
    unfold swapPayload
    split
    case h_1 a b hlow hhigh =>
      have hb (_ : Sprite α) : b.speech = speech := hsame _ _ hhigh
      have ha (_ : Sprite α) : a.speech = speech := hsame _ _ hlow
      exact hupdate pair.high (hupdate pair.low hsame hb) ha
    case h_2 => exact hsame

variable [Scalar α]

/-- Every sprite put back to its starting pose, in the order of their ids. -/
def resetAll (store : Store α) : Store α :=
  store.ids.foldl (fun store id => store.update id Sprite.reset) store

theorem WellFormed.resetAll {store : Store α} (h : store.WellFormed) : store.resetAll.WellFormed :=
  h.foldl_update store.ids Sprite.reset

/-- A reset resets every sprite in its slot. -/
theorem WellFormed.get?_resetAll {store : Store α} (h : store.WellFormed) (id : Nat) :
    store.resetAll.get? id = (store.get? id).map Sprite.reset := by
  have hfold (ids : List Nat) (store : Store α) :
      (ids.foldl (fun store id => store.update id Sprite.reset) store).get? id =
        if id ∈ ids then (store.get? id).map fun sprite => { sprite.reset with id := id }
        else store.get? id := by
    induction ids generalizing store with
    | nil => rfl
    | cons other rest ih =>
      rw [List.foldl_cons, ih, get?_update]
      by_cases hid : id = other
      · subst hid
        cases store.get? id <;> simp [Sprite.reset, Sprite.fresh]
      · simp [hid]
  rw [Store.resetAll, hfold]
  cases hsprite : store.get? id with
  | none => simp
  | some sprite =>
    have hmem : id ∈ store.ids :=
      (mem_ids_iff_contains _ _).2 ((contains_iff_get? _ _).2 ⟨sprite, hsprite⟩)
    have hid := h.id_of_get? hsprite
    rw [if_pos hmem, Option.map_some, Option.map_some, ← hid]
    rfl

theorem ids_resetAll (store : Store α) : store.resetAll.ids = store.ids := by
  have hfold (ids : List Nat) (store : Store α) :
      (ids.foldl (fun store id => store.update id Sprite.reset) store).ids = store.ids := by
    induction ids generalizing store with
    | nil => rfl
    | cons id rest ih => rw [List.foldl_cons, ih, ids_update]
  exact hfold store.ids store

/-- Every sprite that is reset keeps its program. -/
theorem WellFormed.program?_resetAll {store : Store α} (h : store.WellFormed) (id : Nat) :
    store.resetAll.program? id = store.program? id := by
  rw [program?, h.get?_resetAll, Option.map_map]
  rfl

/-- A reset keeps all programs on the stage. -/
theorem WellFormed.programs_resetAll {store : Store α} (h : store.WellFormed) :
    store.resetAll.programs = store.programs := by
  have hfold (ids : List Nat) {store : Store α} (h : store.WellFormed) :
      (ids.foldl (fun store id => store.update id Sprite.reset) store).programs = store.programs := by
    induction ids generalizing store with
    | nil => rfl
    | cons id rest ih =>
      rw [List.foldl_cons, ih (h.update id _)]
      exact h.programs_update_of_kept fun _ _ => rfl
  exact hfold store.ids h

end Store

namespace Stage

variable [Scalar α]

theorem store_reset (stage : Stage α) : stage.reset.store =
    stage.store.resetAll.trade (stage.hero.newContacts stage.store.resetAll) := rfl

/-- A reset leaves each sprite as it is when new, but for a program. -/
theorem get?_reset {stage : Stage α} (h : stage.store.WellFormed) {id : Nat} {sprite : Sprite α}
    (hsprite : stage.store.get? id = some sprite) : ∃ next, stage.reset.store.get? id = some next ∧
      { next with program := [] } = Sprite.fresh id sprite.kind := by
  have hreset : stage.store.resetAll.get? id = some sprite.reset := by
    rw [h.get?_resetAll, hsprite, Option.map_some]
  let view (sprite : Sprite α) : Sprite α := { sprite with id := id, speech := .cleared, program := [] }
  have huntraded : Store.Untraded view := fun _ _ _ _ => rfl
  have hview : (stage.reset.store.get? id).map view = some (view sprite.reset) := by
    have hsettle := HeroMode.map_get?_settle huntraded stage.hero stage.store.resetAll id
    rw [hreset] at hsettle
    exact hsettle
  obtain ⟨next, hnext, hsame⟩ := Option.map_eq_some_iff.1 hview
  have hspeech : next.speech = .cleared := by
    have hcleared (other : Nat) (old : Sprite α) (hold : stage.store.resetAll.get? other = some old) :
        old.speech = .cleared := by
      rw [h.get?_resetAll] at hold
      obtain ⟨_, _, rfl⟩ := Option.map_eq_some_iff.1 hold
      rfl
    exact Store.speech_trade hcleared _ id next hnext
  have hid : next.id = id := (h.resetAll.trade _).id_of_get? hnext
  refine ⟨next, hnext, ?_⟩
  calc ({ next with program := [] } : Sprite α)
    _ = view next := by simp only [view, hid, hspeech]
    _ = view sprite.reset := hsame
    _ = .fresh id sprite.kind := rfl

/-- The programs after a reset are those of before, traded for the new contacts. -/
theorem program?_reset {stage : Stage α} (h : stage.store.WellFormed) (id : Nat) :
    stage.reset.store.program? id =
      (stage.store.trade (stage.hero.newContacts stage.store.resetAll)).program? id := by
  rw [store_reset]
  exact Store.program?_trade_congr h.program?_resetAll _ id

end Stage

end SpriteStage
