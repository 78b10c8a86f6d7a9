import SpriteStage.Proofs.Session.Consistent
import SpriteStage.Proofs.Session.Snapshots
import SpriteStage.Proofs.Session.Versions
import SpriteStage.Proofs.Stage.Reset

namespace SpriteStage

variable {α : Type}

namespace Store

/-- The selected sprite is there. -/
def SelectsKnown (store : Store α) : Prop :=
  ∀ id, store.selected = some id → store.contains id = true

/-- The selection stays known while it is not changed and no sprite goes. -/
theorem SelectsKnown.of_selected {before after : Store α} (h : before.SelectsKnown)
    (hselected : after.selected = before.selected)
    (hcontains : ∀ id, before.contains id = true → after.contains id = true) : after.SelectsKnown := by
  intro id hid
  exact hcontains id (h id (hselected ▸ hid))

/-- Resetting sprites leaves the selection alone. -/
theorem selected_foldl_reset [Scalar α] (ids : List Nat) (store : Store α) :
    (ids.foldl (fun store id => store.update id Sprite.reset) store).selected = store.selected := by
  induction ids generalizing store with
  | nil => rfl
  | cons id rest ih => rw [List.foldl_cons, ih, update]

end Store

namespace Stage

/-- The ids by which a stage names sprites outside its store. -/
def references (stage : Stage α) : List Nat :=
  stage.store.selected.toList ++ stage.hero.colliding.flatMap (fun pair => [pair.low, pair.high]) ++
    stage.undo.entries.flatMap (fun entry => [entry.id, entry.prior.id]) ++
    stage.registry.works.map (·.id)

variable [Scalar α]

/-- Changing a sprite leaves the selection alone. -/
theorem selected_commit (id : Nat) (change : Sprite α → Sprite α) (stage : Stage α) :
    (stage.commit id change).store.selected = stage.store.selected := by
  unfold commit
  split
  · exact Store.selected_trade _ _
  · rfl

theorem selected_write (id : Nat) (w : Write α) (stage : Stage α) :
    (stage.write id w).store.selected = stage.store.selected := by
  unfold write
  cases w.change with
  | none => rfl
  | some change => exact selected_commit _ _ _

end Stage

namespace Session

variable [Scalar α]

/-- Every move keeps the selection on a sprite that is there. -/
theorem selectsKnown_of_move {s after : Session α} (h : s.stage.store.SelectsKnown)
    (hmove : Move s after) : after.stage.store.SelectsKnown := by
  have hreact (stage : Stage α) (hstage : stage.store.SelectsKnown) : stage.react.store.SelectsKnown :=
    hstage.of_selected (Store.selected_trade _ _) fun id hid =>
      ((Stage.sameRuns_react stage).contains id).trans hid
  have hcommit (id : Nat) (change : Sprite α → Sprite α) (stage : Stage α)
      (hstage : stage.store.SelectsKnown) : (stage.commit id change).store.SelectsKnown :=
    hstage.of_selected (Stage.selected_commit _ _ _) fun other hother =>
      (Stage.contains_commit id other change stage).trans hother
  cases hmove with
  | edit id hedit => exact hcommit id _ s.stage h
  | add kind =>
    have hadded : (s.stage.store.add kind).SelectsKnown := by
      have hselected : (s.stage.store.add kind).selected = s.stage.store.selected := rfl
      refine h.of_selected hselected fun id hid => ?_
      obtain ⟨sprite, hsprite⟩ := (Store.contains_iff_get? _ _).1 hid
      refine (Store.contains_iff_get? _ _).2 ⟨sprite, ?_⟩
      rw [Store.get?_add, hsprite, Option.some_or]
    exact hreact { s.stage with store := s.stage.store.add kind } hadded
  | select id =>
    simp only [onStage, Stage.select, Store.select]
    split
    case isTrue hknown =>
      rintro other ⟨⟩
      exact hknown
    case isFalse => exact h
  | unselect =>
    intro other hother
    cases hother
  | delete id =>
    simp only [onStage, Stage.delete]
    split
    case isTrue =>
      intro other hother
      obtain ⟨hselected, hne⟩ := Option.filter_eq_some_iff.1 hother
      have hne : other ≠ id := by simpa using hne
      obtain ⟨sprite, hsprite⟩ := (Store.contains_iff_get? _ _).1 (h other hselected)
      refine (Store.contains_iff_get? _ _).2 ⟨sprite, ?_⟩
      rw [Store.get?_remove, if_neg hne, hsprite]
    case isFalse => exact h
  | movePointer pointer => exact h
  | undo =>
    simp only [onStage, Stage.undoLast]
    split
    case h_1 => exact h
    case h_2 entry rest _ =>
      apply hcommit
      exact h.of_selected rfl fun id hid => (Store.contains_update _ _ _ _).trans hid
  | reset =>
    apply hreact
    apply h.of_selected (Store.selected_foldl_reset _ _)
    intro id hid
    rw [← Store.mem_ids_iff_contains] at hid ⊢
    exact (Store.ids_resetAll s.stage.store).symm ▸ hid
  | switchHero enabled =>
    cases enabled with
    | true => exact hreact _ h
    | false => exact h
  | @halt id hknown =>
    exact h.of_selected rfl fun other hother => (contains_halt id other s).trans hother
  | @start id hknown chain =>
    have hstarted :
        ({ s.stage with registry := s.stage.registry.startChain id } : Stage α).store.SelectsKnown := h
    exact hcommit _ _ _ hstarted

/-- The selected sprite is on the stage. -/
theorem Reachable.selectsKnown {s : Session α} (hs : s.Reachable) : s.stage.store.SelectsKnown := by
  apply hs.induction (motive := fun s => s.stage.store.SelectsKnown) (fun _ _ => nofun)
  intro s event h
  cases event with
  | control control =>
    exact moves_induction (motive := fun after => after.stage.store.SelectsKnown)
      (moves_perform control s) h fun _ _ hbefore hmove => selectsKnown_of_move hbefore hmove
  | step n =>
    rcases s.stage_handle_step n with hsame | ⟨t, w, _, _, hwrite⟩
    · rwa [hsame]
    · rw [hwrite]
      exact h.of_selected (Stage.selected_write _ _ _) fun id hid =>
        (Stage.contains_write _ _ _ _).trans hid
  | pass ms => exact h

/-- Every sprite that the stage refers to is on the stage. -/
theorem Reachable.mem_ids_of_references {s : Session α} (hs : s.Reachable) {id : Nat}
    (hid : id ∈ s.stage.references) : id ∈ s.stage.store.ids := by
  rw [Store.mem_ids_iff_contains]
  simp only [Stage.references, List.mem_append, List.mem_flatMap, List.mem_map, Option.mem_toList,
    List.mem_cons, List.not_mem_nil, or_false] at hid
  rcases hid with ((hselected | ⟨pair, hpair, hid⟩) | ⟨entry, hentry, hid⟩) | ⟨work, hwork, rfl⟩
  · exact hs.selectsKnown id hselected
  · have hknows := hs.tracked.knows
    rw [HeroMode.Knows] at hknows
    rw [hknows] at hpair
    split at hpair
    case isTrue =>
      obtain ⟨_, low, high, hlow, hhigh, _⟩ := hs.tracked.wellFormed.mem_overlappingPairs_iff.1 hpair
      rcases hid with rfl | rfl
      · exact (Store.contains_iff_get? _ _).2 ⟨low, hlow⟩
      · exact (Store.contains_iff_get? _ _).2 ⟨high, hhigh⟩
    case isFalse => cases hpair
  · have hknown := hs.logged.known entry hentry
    rcases hid with rfl | rfl
    · exact hknown
    · rwa [hs.logged.own entry hentry]
  · apply hs.consistent.sound.known
    intro hnone
    simpa using List.find?_eq_none.1 hnone work hwork

/-- The ids of the sprites are the keys of the store and have all been given out, and whatever names a
    sprite names one that is there. A sprite that is deleted neither comes back nor is named again. -/
theorem references_are_present {s : Session α} (hs : s.Reachable) :
    s.stage.store.sprites.map (·.id) = s.stage.store.ids ∧
      (∀ id ∈ s.stage.store.ids, id < s.stage.store.nextId) ∧
      (∀ id ∈ s.stage.references, id ∈ s.stage.store.ids) ∧
      ∀ id ∈ s.stage.store.ids, ∀ events : List (Event α),
        let later := ((s.perform (.delete id)).play events).stage
        id ∉ later.store.ids ∧ id ∉ later.references := by
  have hwell := hs.tracked.wellFormed
  refine ⟨?_, hwell.lt_nextId, fun id => hs.mem_ids_of_references, ?_⟩
  · rw [Store.sprites, Store.ids, List.map_map]
    exact List.map_congr_left hwell.sprite_id
  · intro id hid events later
    have hdeleted : ¬ (s.perform (.delete id)).stage.store.contains id = true := by
      rw [Store.contains_iff_get?]
      rintro ⟨sprite, hsprite⟩
      have hnone := s.stage.get?_delete id id
      rw [if_pos rfl] at hnone
      have hfound := hnone.symm.trans hsprite
      cases hfound
    have hgiven : id < (s.perform (.delete id)).stage.store.nextId :=
      Nat.lt_of_lt_of_le (hwell.lt_nextId id hid)
        (Move.precedes_store (.delete id : Move s (s.perform (.delete id)))).nextId_le
    have hgone : id ∉ later.store.ids := by
      rw [Store.mem_ids_iff_contains]
      exact fun hthere => hdeleted ((precedes_store_play _ events).contains hgiven hthere)
    have hlater : later.references ⊆ later.store.ids := fun _ =>
      ((hs.perform (.delete id)).play events).mem_ids_of_references
    exact ⟨hgone, fun hnamed => hgone (hlater hnamed)⟩

/-- Two balls in one place with Hero Mode on, the first of which is selected and speaks for a while. -/
def huddled : Session Float :=
  let program : Program := [⟨⟨"f", "when_flag_clicked", [], [], []⟩,
    [⟨"h", "say_for_seconds", [("message", .str "Hi!"), ("seconds", .int 1)], [], []⟩,
      ⟨"w", "wait", [("seconds", .int 2)], [], []⟩]⟩]
  (new Config.default 0).play
    [.control (.add .ball), .control (.setProgram 1 program), .control (.run 1), .control (.select 1),
      .control (.add .ball), .control (.switchHero true), .step 0, .step 0]

/-- Everything that names sprites names the first ball, and nothing does once it is deleted, also when
    its chain and its speech timer go on. -/
theorem references_are_present_huddled :
    huddled.stage.references = [1, 1, 2, 1, 1, 1] ∧
      (∀ id ∈ huddled.stage.references, id ∈ huddled.stage.store.ids) ∧
      let later :=
        ((huddled.perform (.delete 1)).play [.step 0, .step 1, .control (.add .cat), .step 1]).stage
      later.store.ids = [2, 3] ∧ 1 ∉ later.store.ids ∧ 1 ∉ later.references := by
  have hreachable : huddled.Reachable := ⟨Config.default, 0, _, rfl⟩
  obtain ⟨_, _, hpresent, hdeleted⟩ := references_are_present hreachable
  exact ⟨by decide +kernel, hpresent, by decide +kernel, hdeleted 1 (by decide +kernel) _⟩

end Session

end SpriteStage
