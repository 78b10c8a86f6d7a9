import SpriteStage.Proofs.Session.Trading

namespace SpriteStage

variable {α : Type}

/-- The event is not a control operation. -/
def Event.IsBackground : Event α → Prop
  | .control _ => False
  | _ => True

variable [Scalar α]

namespace Session

/-- The later session has the sprites and the programs of the earlier one. Without Hero Mode every
    sprite has its own program. -/
structure KeepsPrograms (before after : Session α) : Prop where
  tracked : after.stage.Tracked
  ids : after.stage.store.ids = before.stage.store.ids
  programs : after.stage.store.programs = before.stage.store.programs
  enabled : after.stage.hero.enabled = before.stage.hero.enabled
  programOf : before.stage.hero.enabled = false →
    ∀ id, after.stage.programOf id = before.stage.programOf id

namespace KeepsPrograms

theorem refl {s : Session α} (h : s.stage.Tracked) : s.KeepsPrograms s :=
  ⟨h, rfl, rfl, rfl, fun _ _ => rfl⟩

theorem trans {first middle last : Session α} (hfirst : first.KeepsPrograms middle)
    (hlast : middle.KeepsPrograms last) : first.KeepsPrograms last := by
  refine ⟨hlast.tracked, hlast.ids.trans hfirst.ids, hlast.programs.trans hfirst.programs,
    hlast.enabled.trans hfirst.enabled, ?_⟩
  intro hoff id
  exact (hlast.programOf (hfirst.enabled.trans hoff) id).trans (hfirst.programOf hoff id)

/-- What is silent keeps the programs. -/
theorem of_silent {change : Session α → Session α} (hchange : Silent change) {s : Session α}
    (h : s.stage.Tracked) : s.KeepsPrograms (change s) := by
  have htracked := hchange.tracked s h
  have hpayload := hchange.payload? s h
  have hids : (change s).stage.store.ids = s.stage.store.ids := by
    rw [← htracked.wellFormed.ids_layout, ← h.wellFormed.ids_layout, hchange.layout s h]
  refine ⟨htracked, hids, Store.programs_congr h.wellFormed htracked.wellFormed hids hpayload, ?_, ?_⟩
  · rw [hchange.hero s h]
  · exact fun _ id => Stage.programOf_of_payload? (hpayload id)

/-- A step of a task trades programs at most. -/
theorem step {s : Session α} (h : s.stage.Tracked) (n : Nat) : s.KeepsPrograms (s.handle (.step n)) := by
  have hwellFormed := wellFormed_handlePlain h.wellFormed (.step n)
  have hstore := store_handle h (.step n)
  have hplain : (s.handlePlain (.step n)).stage.store.ids = s.stage.store.ids ∧
      (s.handlePlain (.step n)).stage.store.programs = s.stage.store.programs ∧
      ∀ id, (s.handlePlain (.step n)).stage.programOf id = s.stage.programOf id := by
    cases ht : s.task? n with
    | none =>
      rw [handlePlain_step, ht]
      exact ⟨rfl, rfl, fun _ => rfl⟩
    | some t =>
      obtain ⟨w, hfits, hstore⟩ := store_handlePlain_step ht
      simp only [Stage.programOf, hstore]
      cases hchange : w.change with
      | none => exact ⟨rfl, rfl, fun _ => rfl⟩
      | some change =>
        have hkept (sprite : Sprite α) := hfits.program change sprite hchange
        exact ⟨Store.ids_update _ _ _, h.wellFormed.programs_update_of_kept hkept,
          Store.elim_program_update hkept⟩
  obtain ⟨hids, hprograms, hprogramOf⟩ := hplain
  refine ⟨tracked_handle h _, ?_, ?_, enabled_handle h _, ?_⟩
  · rw [hstore, Store.ids_trade, hids]
  · rw [hstore, hwellFormed.programs_trade, hprograms]
  · intro hoff id
    have hafter : (s.handle (.step n)).stage.hero.enabled = false :=
      (enabled_handle h (.step n)).trans hoff
    rw [contacts_of_off h _ hafter] at hstore
    rw [← hprogramOf, Stage.programOf, hstore]
    rfl

/-- An event of the background keeps the programs, which may be traded. -/
theorem handle {s : Session α} (h : s.stage.Tracked) {event : Event α} (hevent : event.IsBackground) :
    s.KeepsPrograms (s.handle event) := by
  cases event with
  | control control => exact hevent.elim
  | step n => exact .step h n
  | pass ms => exact ⟨h, rfl, rfl, rfl, fun _ _ => rfl⟩

/-- A run in the background keeps the programs. -/
theorem background {s : Session α} (h : s.stage.Tracked) {events : List (Event α)}
    (hevents : ∀ event ∈ events, event.IsBackground) : s.KeepsPrograms (s.play events) := by
  induction events generalizing s with
  | nil => exact .refl h
  | cons event rest ih =>
    have hfirst : s.KeepsPrograms (s.handle event) := .handle h (hevents event List.mem_cons_self)
    exact hfirst.trans
      (ih hfirst.tracked fun other hother => hevents other (List.mem_cons_of_mem _ hother))

end KeepsPrograms

/-- A run in the background leaves the undo log alone. -/
theorem undo_background {events : List (Event α)} (hevents : ∀ event ∈ events, event.IsBackground)
    (s : Session α) : (s.play events).stage.undo = s.stage.undo := by
  induction events generalizing s with
  | nil => rfl
  | cons event rest ih =>
    have hevent := hevents event List.mem_cons_self
    have hfirst : (s.handle event).stage.undo = s.stage.undo := by
      cases event with
      | control control => exact hevent.elim
      | pass ms => rfl
      | step n =>
        rcases s.stage_handle_step n with hsame | ⟨t, w, _, _, hwrite⟩
        · rw [hsame]
        · rw [hwrite, Stage.undo_write]
    rw [play_cons, ih fun other hother => hevents other (List.mem_cons_of_mem _ hother), hfirst]

/-- Undoing puts a program in the place of the one that its sprite has. -/
theorem programs_undo {s : Session α} (h : s.stage.Tracked) {entry : UndoEntry α} {rest : UndoLog α}
    (hpop : s.stage.undo.pop? = some (entry, rest)) {sprite : Sprite α}
    (hsprite : s.stage.store.get? entry.id = some sprite) :
    (s.perform .undo).stage.store.programs + {sprite.program} =
      s.stage.store.programs + {entry.prior.program} := by
  let stopped := s.stage.store.update entry.id Sprite.idle
  have hstopped : stopped.get? entry.id = some { sprite.idle with id := entry.id } := by
    rw [Store.get?_update, if_pos rfl, hsprite]
    rfl
  have hwellFormed : stopped.WellFormed := h.wellFormed.update _ _
  have hplain : (s.handlePlain (.control .undo)).stage.store =
      stopped.update entry.id fun _ => entry.prior.idle :=
    congrArg Stage.store (Stage.undoLast_withHero_off hpop)
  have hafter := store_handle h (.control .undo)
  rw [hplain] at hafter
  change (s.handle (.control .undo)).stage.store.programs + _ = _
  rw [hafter, (hwellFormed.update _ _).programs_trade]
  have hupdate := hwellFormed.programs_update hstopped fun _ => entry.prior.idle
  have hsame : stopped.programs = s.stage.store.programs :=
    h.wellFormed.programs_update_of_kept fun _ _ => rfl
  rw [hsame] at hupdate
  exact hupdate

/-- While a run is left to itself, the undo log has the sprite on top with its old program. -/
theorem pop?_of_background_run {s : Session α} (hs : s.Reachable) {id : Nat} {sprite : Sprite α}
    (hsprite : s.stage.store.get? id = some sprite) (hflagged : sprite.program.flagged ≠ [])
    {events : List (Event α)} (hevents : ∀ event ∈ events, event.IsBackground) :
    s.KeepsPrograms ((s.perform (.run id)).play events) ∧
      ((s.perform (.run id)).play events).stage.undo.pop? =
        some (⟨id, sprite.idle⟩, s.stage.undo) := by
  have h := hs.tracked
  have hrun : s.KeepsPrograms (s.perform (.run id)) := .of_silent (silent_run id) h
  have hlog : (s.perform (.run id)).stage.undo = s.stage.undo.push id sprite.idle :=
    undo_startChosen h.wellFormed hsprite hflagged
  refine ⟨hrun.trans (.background hrun.tracked hevents), ?_⟩
  rw [undo_background hevents, hlog]
  rfl

/-- The undo of a run that was left to itself gives the sprite its old program back. The program that
    the sprite has by then is lost, so the programs on the stage are the same as before the run exactly
    if the sprite has not traded its program away. Without Hero Mode it has not. -/
theorem programs_of_undone_run {s : Session α} (hs : s.Reachable) {id chains : Nat}
    (hstarts : s.reply (.run id) = .started (chains + 1)) {events : List (Event α)}
    (hevents : ∀ event ∈ events, event.IsBackground) :
    let before := s.stage
    let during := ((s.perform (.run id)).play events).stage
    let after := (((s.perform (.run id)).play events).perform .undo).stage
    ((s.perform (.run id)).play events).reply .undo = .undone (some id) ∧
      after.store.programs + {during.programOf id} = before.store.programs + {before.programOf id} ∧
      (after.store.programs = before.store.programs ↔ during.programOf id = before.programOf id) ∧
      (before.hero.enabled = false → after.store.programs = before.store.programs) := by
  intro before during after
  have hlength : (before.programOf id).flagged.length = chains + 1 := by
    simpa only [reply, Reply.started.injEq] using hstarts
  obtain ⟨sprite, hsprite⟩ : ∃ sprite, before.store.get? id = some sprite := by
    rw [← Option.ne_none_iff_exists']
    intro hnone
    rw [Stage.programOf, hnone] at hlength
    cases hlength
  have hprogram : before.programOf id = sprite.program := Stage.programOf_of_get? hsprite
  have hflagged : sprite.program.flagged ≠ [] := by
    rw [← hprogram, ← List.length_pos_iff, hlength]
    exact Nat.succ_pos chains
  obtain ⟨hkept, hpop⟩ := pop?_of_background_run hs hsprite hflagged hevents
  have hknown : during.store.contains id = true := by
    rw [← Store.mem_ids_iff_contains, hkept.ids, Store.mem_ids_iff_contains, Store.contains_iff_get?]
    exact ⟨sprite, hsprite⟩
  obtain ⟨now, hnow⟩ := (Store.contains_iff_get? _ _).1 hknown
  have hexchange : after.store.programs + {during.programOf id} =
      before.store.programs + {before.programOf id} := by
    rw [Stage.programOf_of_get? hnow, hprogram, ← hkept.programs]
    exact programs_undo hkept.tracked hpop hnow
  have hsame : after.store.programs = before.store.programs ↔
      during.programOf id = before.programOf id := by
    constructor
    · intro hprograms
      rw [hprograms] at hexchange
      exact Multiset.singleton_inj.1 (add_left_cancel hexchange)
    · intro hprogram
      rw [hprogram] at hexchange
      exact add_right_cancel hexchange
  refine ⟨?_, hexchange, hsame, fun hoff => hsame.2 (hkept.programOf hoff id)⟩
  change Reply.undone during.undone? = _
  rw [Stage.undone?_of_pop? hpop, if_pos hknown]

/-- Two balls apart with Hero Mode on, the second of which has a program that takes it to the first. -/
def approaching : Session Float :=
  let program : Program := [⟨⟨"f", "when_flag_clicked", [], [], []⟩,
    [⟨"g", "go_to", [("x_position", .int 490), ("y_position", .int 490)], [], []⟩]⟩]
  (new Config.default 0).play
    [.control (.add .ball), .control (.add .ball), .control (.moveTo 1 (.ofFloats 500 500)),
      .control (.setProgram 2 program), .control (.switchHero true)]

/-- The ball trades its program away as it arrives, and the undo gives it the program a second time. -/
theorem programs_doubled_by_undo : approaching.Reachable ∧
    approaching.reply (.run 2) = .started 1 ∧
    (∀ event ∈ ([.step 0, .step 0] : List (Event Float)), event.IsBackground) ∧
    (((approaching.perform (.run 2)).play [.step 0, .step 0]).perform .undo).stage.store.programs ≠
      approaching.stage.store.programs := by
  refine ⟨⟨Config.default, 0, _, rfl⟩, by decide +kernel, ?_, ?_⟩
  · simp [Event.IsBackground]
  · intro hsame
    have hlengths := congrArg (Multiset.map List.length) hsame
    revert hlengths
    decide +kernel

/-- The program that comes back takes the place of the one that the ball traded for. -/
theorem programs_of_undone_run_approaching :
    let during := (approaching.perform (.run 2)).play [.step 0, .step 0]
    (during.perform .undo).stage.store.programs + {during.stage.programOf 2} =
      approaching.stage.store.programs + {approaching.stage.programOf 2} := by
  have hreachable : approaching.Reachable := ⟨Config.default, 0, _, rfl⟩
  have hstarts : approaching.reply (.run 2) = .started (0 + 1) := by decide +kernel
  have hevents : ∀ event ∈ ([.step 0, .step 0] : List (Event Float)), event.IsBackground := by
    simp [Event.IsBackground]
  exact (programs_of_undone_run hreachable hstarts hevents).2.1

end Session

end SpriteStage
