import SpriteStage.Proofs.Session.ActiveChains
import SpriteStage.Proofs.Session.Snapshots

namespace SpriteStage

variable {α : Type}

/-- Snapshots are of sprites at rest. -/
theorem Stage.Logged.atRest_of_mem_priors {stage : Stage α} (h : stage.Logged) {id : Nat}
    {prior : Sprite α} (hprior : prior ∈ stage.undo.priors id) :
    prior.isRunning = false ∧ prior.animation = none := by
  obtain ⟨entry, hentry, rfl⟩ := List.mem_map.1 hprior
  have hidle := h.atRest entry (List.mem_of_mem_filter hentry)
  exact ⟨(congrArg Sprite.isRunning hidle).symm, (congrArg Sprite.animation hidle).symm⟩

namespace Session

variable [Scalar α]

/-- An undo answers that it undid nothing exactly if the log is empty. -/
theorem reply_undo_eq_none_iff {s : Session α} (h : s.stage.Logged) :
    s.reply .undo = .undone none ↔ s.stage.undo.entries = [] := by
  change Reply.undone s.stage.undone? = _ ↔ _
  rw [Reply.undone.injEq]
  cases hpop : s.stage.undo.pop? with
  | none =>
    rw [Stage.undone?, hpop, UndoLog.entries_of_pop?_eq_none hpop]
    exact ⟨fun _ => rfl, fun _ => rfl⟩
  | some popped =>
    obtain ⟨entry, rest⟩ := popped
    rw [h.undone?_of_pop? hpop, UndoLog.entries_of_pop? hpop]
    simp

/-- An undo with an empty log does nothing. -/
theorem perform_undo_of_empty {s : Session α} (hempty : s.stage.undo.entries = []) :
    s.perform .undo = s := by
  have hpop : s.stage.undo.pop? = none := by rw [UndoLog.pop?, hempty]
  have hstage : s.stage.undoLast = s.stage := by rw [Stage.undoLast, hpop]
  exact congrArg (fun stage => { s with stage := stage }) hstage

section Pop

variable {s : Session α} {entry : UndoEntry α} {rest : UndoLog α}
  (hpop : s.stage.undo.pop? = some (entry, rest))

include hpop

/-- An undo takes one entry off the log. -/
theorem undo_perform_undo : (s.perform .undo).stage.undo = rest := by
  change s.stage.undoLast.undo = rest
  rw [Stage.undoLast, hpop]
  exact Stage.undo_commit _ _ _

/-- An undo stops the chains of the undone sprite and no others. -/
theorem active_perform_undo (id : Nat) : (s.perform .undo).stage.registry.active id =
    if id = entry.id then 0 else s.stage.registry.active id := by
  have hregistry : (s.perform .undo).stage.registry = s.stage.registry.cancelChains entry.id := by
    change s.stage.undoLast.registry = _
    rw [Stage.undoLast, hpop]
    exact Stage.registry_commit _ _ _
  rw [hregistry]
  split
  case isTrue hid => rw [hid, TaskRegistry.active_cancelChains_self]
  case isFalse hid => rw [TaskRegistry.active_cancelChains_of_ne _ hid]

/-- Without Hero Mode, an undo puts the sprite of the newest entry back and leaves the others as they
    are. -/
theorem store_perform_undo (h : s.stage.Tracked) (hoff : s.stage.hero.enabled = false) :
    (s.perform .undo).stage.store =
      (s.stage.store.update entry.id Sprite.idle).update entry.id fun _ => entry.prior.idle := by
  have hafter : (s.handle (.control .undo)).stage.hero.enabled = false :=
    (enabled_handle h (.control .undo)).trans hoff
  have hstore := store_handle h (.control .undo)
  rw [contacts_of_off h _ hafter] at hstore
  exact hstore.trans (congrArg Stage.store (Stage.undoLast_withHero_off hpop))

end Pop

/-- A sprite is at the oldest of the snapshots that it had, with no chain running. If it had none, it
    is as it was. -/
structure Rewound (before after : Session α) (id : Nat) : Prop where
  kept : before.stage.undo.priors id = [] →
    after.stage.store.slot? id = before.stage.store.slot? id ∧
      after.stage.registry.active id = before.stage.registry.active id
  oldest : ∀ oldest, (before.stage.undo.priors id).getLast? = some oldest →
    after.stage.store.get? id = some oldest ∧ after.stage.registry.active id = 0

/-- Undoing once and then everything else. -/
theorem Rewound.perform_undo {s last : Session α} (h : s.stage.Tracked) (hlogged : s.stage.Logged)
    (hoff : s.stage.hero.enabled = false) {entry : UndoEntry α} {rest : UndoLog α}
    (hpop : s.stage.undo.pop? = some (entry, rest)) {id : Nat}
    (hlast : (s.perform .undo).Rewound last id) : s.Rewound last id := by
  have hundo := undo_perform_undo hpop
  have hstore := store_perform_undo hpop h hoff
  have hactive := active_perform_undo hpop id
  have hpriors := UndoLog.priors_of_pop? hpop id
  have hlater := hlast.kept
  rw [hundo] at hlater
  by_cases hid : id = entry.id
  · subst hid
    rw [if_pos rfl] at hactive hpriors
    have hentry : entry ∈ s.stage.undo.entries := by
      rw [UndoLog.entries_of_pop? hpop]
      exact List.mem_cons_self
    obtain ⟨sprite, hsprite⟩ := (Store.contains_iff_get? _ _).1 (hlogged.known entry hentry)
    have hrestored : (s.perform .undo).stage.store.get? entry.id = some entry.prior := by
      have hown : { entry.prior with id := entry.id } = entry.prior := by rw [← hlogged.own entry hentry]
      rw [hstore, Store.get?_update, if_pos rfl, Store.get?_update, if_pos rfl, hsprite,
        hlogged.atRest entry hentry]
      exact congrArg some hown
    refine ⟨fun hnone => absurd (hpriors.symm.trans hnone) nofun, ?_⟩
    intro oldest holdest
    rw [hpriors] at holdest
    cases hrest : rest.priors entry.id with
    | nil =>
      rw [hrest, List.getLast?_singleton, Option.some.injEq] at holdest
      obtain ⟨hslot, hstill⟩ := hlater hrest
      refine ⟨?_, hstill.trans hactive⟩
      rw [Store.get?, hslot, ← holdest]
      exact hrestored
    | cons prior older =>
      rw [hrest, List.getLast?_cons_cons, ← hrest, ← hundo] at holdest
      exact hlast.oldest oldest holdest
  · have hslot : (s.perform .undo).stage.store.slot? id = s.stage.store.slot? id := by
      rw [hstore, Store.slot?_update, if_neg hid, Store.slot?_update, if_neg hid]
    rw [if_neg hid] at hactive
    rw [if_neg (Ne.symm hid)] at hpriors
    refine ⟨?_, ?_⟩
    · intro hnone
      obtain ⟨hlastSlot, hlastActive⟩ := hlater (hpriors.symm.trans hnone)
      exact ⟨hlastSlot.trans hslot, hlastActive.trans hactive⟩
    · intro oldest holdest
      rw [hpriors, ← hundo] at holdest
      exact hlast.oldest oldest holdest

/-- The session after everything was undone. -/
def undoAll (s : Session α) : Session α :=
  s.play (List.replicate s.stage.undo.entries.length (.control .undo))

/-- Undoing until the log is empty rewinds every sprite. -/
theorem rewound_undoAll {s : Session α} (hs : s.Reachable) (hoff : s.stage.hero.enabled = false) :
    s.undoAll.stage.undo.entries = [] ∧ ∀ id, s.Rewound s.undoAll id := by
  induction hentries : s.stage.undo.entries generalizing s with
  | nil =>
    have hsame : s.undoAll = s := by rw [undoAll, hentries]; rfl
    rw [hsame]
    refine ⟨hentries, fun id => ⟨fun _ => ⟨rfl, rfl⟩, ?_⟩⟩
    intro oldest holdest
    rw [UndoLog.priors, hentries] at holdest
    cases holdest
  | cons entry rest ih =>
    have hpop : s.stage.undo.pop? = some (entry, ⟨rest⟩) := by rw [UndoLog.pop?, hentries]
    have hundo := undo_perform_undo hpop
    have hnext : (s.perform .undo).stage.hero.enabled = false :=
      (enabled_handle hs.tracked (.control .undo)).trans hoff
    obtain ⟨hempty, hrewound⟩ := ih (hs.perform .undo) hnext (by rw [hundo])
    have hsame : s.undoAll = (s.perform .undo).undoAll := by
      rw [undoAll, undoAll, hundo, hentries]
      rfl
    rw [hsame]
    exact ⟨hempty, fun id => (hrewound id).perform_undo hs.tracked hs.logged hoff hpop⟩

/-- The undo log is a stack of snapshots. An undo that finds it empty reports nothing and changes
    nothing; otherwise it reports the sprite of the newest entry and takes that entry off. The entries
    of a sprite are the snapshots that its runs took. Without Hero Mode, undoing everything leaves a
    sprite at its oldest snapshot, at rest, and a sprite without one exactly as it was. -/
theorem undo_is_stack_of_snapshots (config : Config) (entropy : Nat) (events : List (Event α)) :
    let start : Session α := new config entropy
    let s := start.play events
    let log := s.stage.undo.entries
    (s.reply .undo = .undone none ↔ log = []) ∧
      (log = [] → s.perform .undo = s) ∧
      (∀ entry rest, log = entry :: rest → s.reply .undo = .undone (some entry.id) ∧
        (s.perform .undo).stage.undo.entries = rest) ∧
      (∀ id, s.stage.undo.priors id = start.snapshots id events []) ∧
      (s.stage.hero.enabled = false →
        let after := s.play (List.replicate log.length (.control .undo))
        after.stage.undo.entries = [] ∧ ∀ id,
          (start.snapshots id events [] = [] →
            after.stage.store.slot? id = s.stage.store.slot? id) ∧
          ∀ oldest, (start.snapshots id events []).getLast? = some oldest →
            after.stage.store.get? id = some oldest ∧ oldest.isRunning = false ∧
              oldest.animation = none ∧ after.stage.registry.active id = 0 ∧ after.live id = []) := by
  intro start s log
  have hstart : start.Reachable := ⟨config, entropy, [], rfl⟩
  have hs : s.Reachable := hstart.play events
  have hpriors (id : Nat) : s.stage.undo.priors id = start.snapshots id events [] :=
    priors_play hstart events id
  refine ⟨reply_undo_eq_none_iff hs.logged, perform_undo_of_empty, ?_, hpriors, ?_⟩
  · intro entry rest hlog
    have hpop : s.stage.undo.pop? = some (entry, ⟨rest⟩) := by
      rw [UndoLog.pop?, show s.stage.undo.entries = entry :: rest from hlog]
    refine ⟨?_, by rw [undo_perform_undo hpop]⟩
    change Reply.undone s.stage.undone? = _
    rw [hs.logged.undone?_of_pop? hpop]
  · intro hoff after
    obtain ⟨hempty, hrewound⟩ := rewound_undoAll hs hoff
    refine ⟨hempty, fun id => ⟨?_, ?_⟩⟩
    · intro hnone
      exact ((hrewound id).kept ((hpriors id).trans hnone)).1
    · intro oldest holdest
      rw [← hpriors] at holdest
      obtain ⟨hsprite, hactive⟩ := (hrewound id).oldest oldest holdest
      obtain ⟨hrunning, hanimation⟩ :=
        hs.logged.atRest_of_mem_priors (List.mem_of_getLast? holdest)
      have hafter : after.Reachable := hs.play _
      have hcount := hafter.consistent.active_eq_length_live id
      refine ⟨hsprite, hrunning, hanimation, hactive, ?_⟩
      rw [← List.length_eq_zero_iff, ← hcount]
      exact hactive

/-- A dog has made one move when its program is run again. -/
def rerun : List (Event Float) :=
  let program : Program := [⟨⟨"f", "when_flag_clicked", [], [], []⟩,
    [⟨"m", "move", [("x_position", .int 10)], [], []⟩]⟩]
  [.control (.add .dog), .control (.setProgram 1 program), .control (.run 1), .step 0, .step 0,
    .control (.run 1)]

/-- Undoing both runs takes the dog to where it was before the first one. -/
theorem undo_is_stack_of_snapshots_rerun :
    ∃ oldest, (snapshots 1 rerun (new Config.default 0) []).getLast? = some oldest ∧
      (((new Config.default 0).play rerun).play
        (List.replicate ((new Config.default 0).play rerun).stage.undo.entries.length
          (.control .undo))).stage.store.get? 1 = some oldest ∧
      oldest.isRunning = false := by
  have htaken : (snapshots 1 rerun (new Config.default 0) []).getLast?.isSome = true := by
    decide +kernel
  obtain ⟨oldest, holdest⟩ := Option.isSome_iff_exists.1 htaken
  have hoff : ((new Config.default 0).play rerun).stage.hero.enabled = false := by decide +kernel
  obtain ⟨_, _, _, _, hundone⟩ := undo_is_stack_of_snapshots Config.default 0 rerun
  obtain ⟨hsprite, hrunning, _⟩ := ((hundone hoff).2 1).2 oldest holdest
  exact ⟨oldest, holdest, hsprite, hrunning⟩

end Session

end SpriteStage
