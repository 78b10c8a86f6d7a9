import SpriteStage.Proofs.Session.Since
import SpriteStage.Proofs.Session.Trading
import SpriteStage.Proofs.Stage.Reset

namespace SpriteStage.Session

variable {α : Type} [Scalar α]

/-- After a reset all tasks that were under way are cancelled. -/
theorem Consistent.outlives_reset {s : Session α} (h : s.Consistent) :
    (s.perform .reset).Outlives s.nextTask := by
  refine ⟨h.handle (.control .reset), Nat.le_refl _, ?_⟩
  intro n t _ _
  exact s.stage.registry.isCancelled_cancelAll t.token

/-- A reset without any task under way leaves nothing from before that could make a difference. -/
theorem Consistent.outlives_reset_without_tasks {s : Session α} (h : s.Consistent) :
    (({ s with tasks := [] } : Session α).perform .reset).Outlives s.nextTask := by
  have hsound := (h.handle (.control .reset)).sound
  exact ⟨⟨hsound, List.nodup_nil, nofun, nofun, fun _ => rfl⟩, Nat.le_refl _, nofun⟩

/-- A reset leaves nothing of what was in flight. Each sprite is as new but for its program, the undo log
    is empty, no chain runs, and Hero Mode knows the pairs that overlap now. All tokens from before are
    cancelled for good, and whatever happens next happens as if no task had been under way: the stage, the
    clock and the tasks to come are the same. -/
theorem reset_starts_afresh {s : Session α} (hs : s.Reachable) :
    let after := s.perform .reset
    let bare := ({ s with tasks := [] } : Session α).perform .reset
    after.stage.store.ids = s.stage.store.ids ∧
      (∀ id sprite, s.stage.store.get? id = some sprite → ∃ next,
        after.stage.store.get? id = some next ∧
          { next with program := [] } = Sprite.fresh id sprite.kind) ∧
      after.stage.undo.entries = [] ∧
      (∀ id, after.stage.registry.active id = 0) ∧
      after.stage.hero.enabled = s.stage.hero.enabled ∧
      after.stage.hero.colliding =
        (if s.stage.hero.enabled then after.stage.store.overlappingPairs else []) ∧
      ∀ events : List (Event α),
        (∀ token : Token, token.serial < s.stage.registry.nextSerial →
          (after.play events).stage.registry.isCancelled token = true) ∧
        (after.play events).stage = (bare.play events).stage ∧
        (after.play events).since s.nextTask = (bare.play events).since s.nextTask := by
  intro after bare
  have h := hs.consistent
  have htracked := tracked_handle hs.tracked (.control .reset)
  have henabled : after.stage.hero.enabled = s.stage.hero.enabled :=
    enabled_handle hs.tracked (.control .reset)
  refine ⟨?_, fun _ _ => Stage.get?_reset hs.tracked.wellFormed, rfl, fun _ => rfl, henabled, ?_, ?_⟩
  · change s.stage.reset.store.ids = _
    rw [Stage.store_reset, Store.ids_trade, Store.ids_resetAll]
  · rw [← henabled]
    exact htracked.knows
  · intro events
    have hconsistent := h.handle (.control .reset)
    have hnone : Task.recent s.nextTask after.tasks = [] := by
      rw [Task.recent, List.filter_eq_nil_iff.2, List.map_nil]
      intro t ht
      have hlt := h.accounts.id_lt t ht
      simpa using hlt
    have hsince : after.since s.nextTask = bare.since s.nextTask :=
      since_congr rfl rfl rfl hnone
    have hplay := h.outlives_reset.since_play h.outlives_reset_without_tasks hsince events
    refine ⟨?_, stage_eq_of_since hplay, hplay⟩
    intro token hserial
    exact (hconsistent.precedes_play events).grows.cancelled hserial
      (s.stage.registry.isCancelled_cancelAll token)

/-- A dog that waits in one chain and speaks in another, with a timer that is to take its bubble down. -/
def interrupted : Session Float :=
  let program : Program := [⟨⟨"f", "when_flag_clicked", [], [], []⟩,
      [⟨"w", "wait", [("seconds", .int 1)], [], []⟩]⟩,
    ⟨⟨"g", "when_flag_clicked", [], [], []⟩,
      [⟨"h", "say_for_seconds", [("message", .str "hello"), ("seconds", .int 1)], [], []⟩]⟩]
  (new Config.default 0).play
    [.control (.add .dog), .control (.setProgram 1 program), .control (.run 1), .step 0, .step 1,
      .step 0, .step 1]

/-- Neither the chains nor the timer of the dog outlast a reset. -/
theorem reset_starts_afresh_interrupted : interrupted.tasks.length = 3 ∧
    (interrupted.perform .reset).stage.undo.entries = [] ∧
    ∀ events, ((interrupted.perform .reset).play events).stage =
      ((({ interrupted with tasks := [] } : Session Float).perform .reset).play events).stage := by
  have hreachable : interrupted.Reachable := ⟨Config.default, 0, _, rfl⟩
  obtain ⟨_, _, hundo, _, _, _, hlater⟩ := reset_starts_afresh hreachable
  exact ⟨by decide +kernel, hundo, fun events => (hlater events).2.1⟩

/-- A reset touches no program, but Hero Mode reacts to it: the sprites that overlap in their starting
    poses and did not overlap before trade their programs, pair by pair. Sprites in no such pair keep
    theirs, and so do all sprites while Hero Mode is off. -/
theorem programs_traded_by_reset {s : Session α} (hs : s.Reachable) :
    let before := s.stage.store
    let after := (s.perform .reset).stage.store
    let pairs := if s.stage.hero.enabled then
        before.resetAll.overlappingPairs.filter fun pair => !before.overlappingPairs.contains pair
      else []
    (∀ id, after.program? id = (before.trade pairs).program? id) ∧
      after.programs = before.programs ∧
      (∀ id, (∀ pair ∈ pairs, pair.involves id = false) → after.program? id = before.program? id) ∧
      (s.stage.hero.enabled = false → ∀ id, after.program? id = before.program? id) := by
  intro before after pairs
  have h := hs.tracked
  have hpairs : s.stage.hero.newContacts before.resetAll = pairs := h.knows.newContacts_eq before.resetAll
  have hprogram (id : Nat) : after.program? id = (before.trade pairs).program? id := by
    rw [← hpairs]
    exact Stage.program?_reset h.wellFormed id
  have hkept (id : Nat) (hothers : ∀ pair ∈ pairs, pair.involves id = false) :
      after.program? id = before.program? id := by
    rw [hprogram, Store.program?, Store.get?_trade hothers, ← Store.program?]
  refine ⟨hprogram, ?_, hkept, ?_⟩
  · change s.stage.reset.store.programs = _
    rw [Stage.store_reset, h.wellFormed.resetAll.programs_trade, h.wellFormed.programs_resetAll]
  · intro hoff id
    apply hkept
    simp [pairs, hoff]

/-- Two balls apart with Hero Mode on, the second of which has a program. -/
def parted : Session Float :=
  let program : Program := [⟨⟨"f", "when_flag_clicked", [], [], []⟩, []⟩]
  (new Config.default 0).play
    [.control (.add .ball), .control (.add .ball), .control (.moveTo 1 (.ofFloats 500 500)),
      .control (.setProgram 2 program), .control (.switchHero true)]

/-- The reset puts both balls into the same place, and the second one loses its program to the first. -/
theorem program_lost_by_reset : parted.Reachable ∧
    (parted.perform .reset).stage.store.program? 2 ≠ parted.stage.store.program? 2 := by
  refine ⟨⟨Config.default, 0, _, rfl⟩, ?_⟩
  intro hsame
  have hlengths := congrArg (Option.map List.length) hsame
  revert hlengths
  decide +kernel

/-- The programs after that reset are those of before with the two balls' traded. -/
theorem programs_traded_by_reset_parted :
    (parted.perform .reset).stage.store.program? 2 =
      (parted.stage.store.trade [⟨1, 2⟩]).program? 2 := by
  have hreachable : parted.Reachable := ⟨Config.default, 0, _, rfl⟩
  have hpairs : (if parted.stage.hero.enabled then
      parted.stage.store.resetAll.overlappingPairs.filter
        fun pair => !parted.stage.store.overlappingPairs.contains pair
      else []) = [⟨1, 2⟩] := by decide +kernel
  have hprogram := (programs_traded_by_reset hreachable).1 2
  rwa [hpairs] at hprogram

end SpriteStage.Session
