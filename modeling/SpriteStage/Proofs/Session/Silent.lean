import SpriteStage.Proofs.Session.Moves
import SpriteStage.Proofs.Stage.Trading
import SpriteStage.Proofs.Store.Payload

namespace SpriteStage

variable {α : Type}

namespace Session

/-- The session with Hero Mode left out. -/
def plain (s : Session α) : Session α :=
  s.onStage (.withHero .off)

variable [Scalar α]

theorem tracked_plain {s : Session α} (h : s.stage.Tracked) : s.plain.stage.Tracked :=
  ⟨h.wellFormed, rfl⟩

/-- A way to change a session to which Hero Mode has nothing to add. -/
structure Silent (change : Session α → Session α) : Prop where
  tracked : ∀ s, s.stage.Tracked → (change s).stage.Tracked
  hero : ∀ s, s.stage.Tracked → (change s).stage.hero = s.stage.hero
  layout : ∀ s, s.stage.Tracked → (change s).stage.store.layout = s.stage.store.layout
  payload? : ∀ s, s.stage.Tracked → ∀ id,
    (change s).stage.store.payload? id = s.stage.store.payload? id
  plain : ∀ s, s.stage.Tracked → change s.plain = (change s).plain

namespace Silent

theorem refl : Silent (fun s : Session α => s) :=
  ⟨fun _ h => h, fun _ _ => rfl, fun _ _ => rfl, fun _ _ _ => rfl, fun _ _ => rfl⟩

theorem trans {first next : Session α → Session α} (hfirst : Silent first) (hnext : Silent next) :
    Silent fun s => next (first s) := by
  refine ⟨?_, ?_, ?_, ?_, ?_⟩
  all_goals
    intro s h
    have hthen := hfirst.tracked s h
  · exact hnext.tracked _ hthen
  · exact (hnext.hero _ hthen).trans (hfirst.hero s h)
  · exact (hnext.layout _ hthen).trans (hfirst.layout s h)
  · exact fun id => (hnext.payload? _ hthen id).trans (hfirst.payload? s h id)
  · rw [hfirst.plain s h, hnext.plain _ hthen]

/-- Doing silent things one after the other is silent. -/
theorem foldl {β : Type} {change : Session α → β → Session α} (hchange : ∀ x, Silent (change · x))
    (xs : List β) : Silent fun s => xs.foldl change s := by
  induction xs with
  | nil => exact refl
  | cons x rest ih => exact (hchange x).trans ih

end Silent

theorem silent_halt (id : Nat) : Silent (halt id : Session α → Session α) := by
  have hstore (s : Session α) : (s.halt id).stage.store = s.stage.store.update id Sprite.idle := rfl
  refine ⟨?_, ?_, ?_, ?_, ?_⟩
  · intro s h
    exact ⟨(h.cancelChains id).wellFormed, (h.cancelChains id).knows⟩
  · exact fun _ _ => rfl
  · intro s h
    rw [hstore]
    exact h.wellFormed.layout_update fun _ _ => rfl
  · intro s h
    rw [hstore]
    exact Store.payload?_update (fun _ => rfl) (fun _ => rfl)
  · exact fun _ _ => rfl

/-- Starting a chain raises the flag of its sprite and does no more to the store. -/
theorem startChain_eq {s : Session α} (h : s.stage.Tracked) (id : Nat) (chain : Chain) :
    s.startChain id chain =
      let registry := s.stage.registry.startChain id
      let store := s.stage.store.update id fun sprite => { sprite with isRunning := true }
      ({ s with stage := { s.stage with registry := registry, store := store } }).spawn id
        (registry.chainToken id) (.chain ⟨Cursor.start chain, .dispatch⟩) := by
  let registry := s.stage.registry.startChain id
  have hstarted : ({ s.stage with registry := registry } : Stage α).Tracked := ⟨h.wellFormed, h.knows⟩
  have hcommit := hstarted.commit_of_box id (fun sprite => { sprite with isRunning := true })
    fun _ _ => rfl
  exact congrArg (fun stage => ({ s with stage := stage }).spawn id (registry.chainToken id)
    (.chain ⟨Cursor.start chain, .dispatch⟩)) hcommit

theorem silent_startChain (id : Nat) (chain : Chain) :
    Silent fun s : Session α => s.startChain id chain := by
  have hstore {s : Session α} (h : s.stage.Tracked) : (s.startChain id chain).stage.store =
      s.stage.store.update id fun sprite => { sprite with isRunning := true } := by
    rw [startChain_eq h]
    rfl
  have hhero {s : Session α} (h : s.stage.Tracked) :
      (s.startChain id chain).stage.hero = s.stage.hero := by
    rw [startChain_eq h]
    rfl
  have hlayout {s : Session α} (h : s.stage.Tracked) :
      (s.startChain id chain).stage.store.layout = s.stage.store.layout := by
    rw [hstore h]
    exact h.wellFormed.layout_update fun _ _ => rfl
  refine ⟨?_, fun _ h => hhero h, fun _ h => hlayout h, ?_, ?_⟩
  · intro s h
    apply h.of_layout _ (hhero h) (hlayout h)
    rw [hstore h]
    exact h.wellFormed.update _ _
  · intro s h
    rw [hstore h]
    exact Store.payload?_update (fun _ => rfl) (fun _ => rfl)
  · intro s h
    rw [startChain_eq h, startChain_eq (tracked_plain h)]
    rfl

theorem silent_startRun (id : Nat) (chains : List Chain) :
    Silent (startRun id chains : Session α → Session α) :=
  (silent_halt id).trans (.foldl (silent_startChain id) chains)

theorem silent_startChosen (choose : Program → List Chain) (id : Nat) :
    Silent (startChosen choose id : Session α → Session α) := by
  have hchosen (s : Session α) : ∃ change : Session α → Session α, Silent change ∧
      s.startChosen choose id = change s ∧ s.plain.startChosen choose id = change s.plain := by
    have hprogram : s.plain.stage.programOf id = s.stage.programOf id := rfl
    unfold startChosen
    rw [hprogram]
    cases choose (s.stage.programOf id) with
    | nil => exact ⟨_, .refl, rfl, rfl⟩
    | cons chain rest => exact ⟨_, silent_startRun id (chain :: rest), rfl, rfl⟩
  refine ⟨?_, ?_, ?_, ?_, ?_⟩
  all_goals
    intro s h
    obtain ⟨change, hsilent, hhere, hplain⟩ := hchosen s
    rw [hhere]
  · exact hsilent.tracked s h
  · exact hsilent.hero s h
  · exact hsilent.layout s h
  · exact hsilent.payload? s h
  · rw [hplain]
    exact hsilent.plain s h

theorem silent_run (id : Nat) : Silent (run id : Session α → Session α) :=
  silent_startChosen Program.flagged id

theorem silent_startAll (choose : Program → List Chain) (ids : List Nat) :
    Silent fun s : Session α => ids.foldl (fun s id => s.startChosen choose id) s :=
  .foldl (silent_startChosen choose) ids

omit [Scalar α] in
/-- A sprite is logged as it is at rest. -/
theorem undo_halt {s : Session α} {id : Nat} {sprite : Sprite α}
    (hsprite : s.stage.store.get? id = some sprite) :
    (s.halt id).stage.undo = s.stage.undo.push id { sprite.idle with id := id } := by
  have hidle : (s.stage.cancelChains id).store.get? id = some { sprite.idle with id := id } := by
    change (s.stage.store.update id Sprite.idle).get? id = _
    rw [Store.get?_update, if_pos rfl, hsprite]
    rfl
  simp only [halt, onStage, hidle]
  rfl

/-- Starting chains leaves the undo log alone. -/
theorem undo_startChains (id : Nat) (chains : List Chain) (s : Session α) :
    (chains.foldl (startChain id) s).stage.undo = s.stage.undo := by
  induction chains generalizing s with
  | nil => rfl
  | cons chain rest ih =>
    rw [List.foldl_cons, ih]
    exact Stage.undo_commit _ _ _

/-- Restarting a sprite on which chains are started records one snapshot of it, at rest. -/
theorem undo_startChosen {s : Session α} (h : s.stage.store.WellFormed) {choose : Program → List Chain}
    {id : Nat} {sprite : Sprite α} (hsprite : s.stage.store.get? id = some sprite)
    (hstarts : choose sprite.program ≠ []) :
    (s.startChosen choose id).stage.undo = s.stage.undo.push id sprite.idle := by
  have hprogram := Stage.programOf_of_get? hsprite
  have hlog : (s.halt id).stage.undo = s.stage.undo.push id sprite.idle := by
    rw [undo_halt hsprite, ← h.id_of_get? hsprite]
    rfl
  unfold startChosen
  rw [hprogram]
  split
  case h_1 hnone => exact absurd hnone hstarts
  case h_2 => rw [startRun_eq, undo_startChains, hlog]

/-- Starting programs on one sprite leaves the others as they are. -/
theorem slot?_startChosen_of_ne {s : Session α} (h : s.stage.Tracked) (choose : Program → List Chain)
    {id other : Nat} (hne : other ≠ id) :
    (s.startChosen choose id).stage.store.slot? other = s.stage.store.slot? other := by
  have hstarts (chains : List Chain) (s : Session α) (h : s.stage.Tracked) :
      (chains.foldl (startChain id) s).stage.store.slot? other = s.stage.store.slot? other := by
    induction chains generalizing s with
    | nil => rfl
    | cons chain rest ih =>
      rw [List.foldl_cons, ih _ ((silent_startChain id chain).tracked s h), startChain_eq h]
      exact (Store.slot?_update _ _ _ _).trans (if_neg hne)
  unfold startChosen
  split
  · rfl
  · rw [startRun_eq, hstarts _ _ ((silent_halt id).tracked s h)]
    exact (Store.slot?_update _ _ _ _).trans (if_neg hne)

end Session

end SpriteStage
