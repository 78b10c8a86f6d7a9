import SpriteStage.Proofs.Session.Trading

namespace SpriteStage

variable {α : Type}

namespace UndoLog

/-- The snapshots of one sprite, the newest first. -/
def priors (id : Nat) (log : UndoLog α) : List (Sprite α) :=
  (log.entries.filter (·.id = id)).map (·.prior)

/-- A new snapshot is the newest of its sprite and of no other. -/
theorem priors_push (id other : Nat) (prior : Sprite α) (log : UndoLog α) :
    (log.push id prior).priors other =
      if id = other then prior :: log.priors other else log.priors other := by
  unfold priors push
  rw [List.filter_cons]
  by_cases hid : id = other <;> simp [hid]

/-- Forgetting a sprite drops its snapshots and no others. -/
theorem priors_forget (id other : Nat) (log : UndoLog α) :
    (log.forget id).priors other = if id = other then [] else log.priors other := by
  unfold priors forget
  rw [List.filter_filter]
  split
  case isTrue hid =>
    rw [List.filter_eq_nil_iff.2, List.map_nil]
    intro entry _
    simp [hid]
  case isFalse hid =>
    congr 1
    apply List.filter_congr
    intro entry _
    by_cases hentry : entry.id = other <;> simp [hentry, Ne.symm hid]

/-- Popping takes the newest entry off the log. -/
theorem entries_of_pop? {log : UndoLog α} {entry : UndoEntry α} {rest : UndoLog α}
    (hpop : log.pop? = some (entry, rest)) : log.entries = entry :: rest.entries := by
  unfold pop? at hpop
  split at hpop
  · cases hpop
  · next hentries =>
    cases hpop
    exact hentries

/-- Only an empty log has nothing to pop. -/
theorem entries_of_pop?_eq_none {log : UndoLog α} (hpop : log.pop? = none) : log.entries = [] := by
  unfold pop? at hpop
  split at hpop
  · next hentries => exact hentries
  · cases hpop

/-- Popping takes a snapshot from the sprite of the newest entry. -/
theorem priors_of_pop? {log : UndoLog α} {entry : UndoEntry α} {rest : UndoLog α}
    (hpop : log.pop? = some (entry, rest)) (id : Nat) :
    log.priors id = if entry.id = id then entry.prior :: rest.priors id else rest.priors id := by
  unfold priors
  rw [entries_of_pop? hpop, List.filter_cons]
  by_cases hid : entry.id = id <;> simp [hid]

end UndoLog

/-- Every entry of the undo log is about a sprite that is there, and shows it at rest. -/
structure Stage.Logged (stage : Stage α) : Prop where
  known : ∀ entry ∈ stage.undo.entries, stage.store.contains entry.id = true
  own : ∀ entry ∈ stage.undo.entries, entry.prior.id = entry.id
  atRest : ∀ entry ∈ stage.undo.entries, entry.prior.idle = entry.prior

namespace Stage.Logged

/-- The log lost entries at most, and no sprite of an entry that it kept. -/
theorem of_subset {before after : Stage α} (h : before.Logged)
    (hsubset : after.undo.entries ⊆ before.undo.entries)
    (hcontains : ∀ entry ∈ after.undo.entries, before.store.contains entry.id = true →
      after.store.contains entry.id = true) : after.Logged := by
  refine ⟨?_, fun entry hentry => h.own entry (hsubset hentry),
    fun entry hentry => h.atRest entry (hsubset hentry)⟩
  intro entry hentry
  exact hcontains entry hentry (h.known entry (hsubset hentry))

end Stage.Logged

/-- No snapshot is kept of a sprite that is not there. -/
theorem Stage.Logged.priors_of_unknown {stage : Stage α} (h : stage.Logged) {id : Nat}
    (hunknown : ¬ stage.store.contains id = true) : stage.undo.priors id = [] := by
  rw [UndoLog.priors, List.filter_eq_nil_iff.2, List.map_nil]
  intro entry hentry hid
  rw [decide_eq_true_eq] at hid
  exact hunknown (hid ▸ h.known entry hentry)

/-- Deleting a sprite drops its snapshots and no others. -/
theorem Stage.Logged.priors_delete {stage : Stage α} (h : stage.Logged) (id other : Nat) :
    (stage.delete other).undo.priors id = if other = id then [] else stage.undo.priors id := by
  unfold Stage.delete
  split
  case isTrue => exact UndoLog.priors_forget other id stage.undo
  case isFalse hunknown =>
    split
    case isTrue hid => rw [← hid, h.priors_of_unknown hunknown]
    case isFalse => rfl

/-- What an undo undoes is the newest entry, whose sprite is there. -/
theorem Stage.Logged.undone?_of_pop? {stage : Stage α} (h : stage.Logged) {entry : UndoEntry α}
    {rest : UndoLog α} (hpop : stage.undo.pop? = some (entry, rest)) :
    stage.undone? = some entry.id := by
  have hentry : entry ∈ stage.undo.entries := by
    rw [UndoLog.entries_of_pop? hpop]
    exact List.mem_cons_self
  rw [Stage.undone?_of_pop? hpop, if_pos (h.known entry hentry)]

namespace Session

/-- The snapshots of a sprite once its program is started, if the choice picks something to start. -/
def recordRun (choose : Program → List Chain) (id : Nat) (s : Session α)
    (snapshots : List (Sprite α)) : List (Sprite α) :=
  match s.stage.store.get? id with
  | none => snapshots
  | some sprite =>
    if (choose sprite.program).isEmpty then snapshots else sprite.idle :: snapshots

/-- What an event makes of the snapshots of a sprite. -/
def record (id : Nat) (event : Event α) (s : Session α) (snapshots : List (Sprite α)) :
    List (Sprite α) :=
  match event with
  | .control (.run other) =>
    if other = id then s.recordRun Program.flagged id snapshots else snapshots
  | .control .runAll => s.recordRun Program.topLevel id snapshots
  | .control .undo => if s.stage.undone? = some id then snapshots.tail else snapshots
  | .control (.delete other) => if other = id then [] else snapshots
  | .control .reset => []
  | _ => snapshots

variable [Scalar α]

/-- The snapshots of a sprite after a list of events, the newest first. -/
def snapshots (id : Nat) : List (Event α) → Session α → List (Sprite α) → List (Sprite α)
  | [], _, taken => taken
  | event :: events, s, taken => snapshots id events (s.handle event) (s.record id event taken)

/-- Every move keeps the log about sprites that are there. -/
theorem logged_of_move {s after : Session α} (h : s.stage.Logged) (hmove : Move s after) :
    after.stage.Logged := by
  have hkept {after : Stage α} (hundo : after.undo = s.stage.undo)
      (hcontains : ∀ id, after.store.contains id = s.stage.store.contains id) : after.Logged :=
    h.of_subset (hundo ▸ List.Subset.refl _) fun entry _ hknown => (hcontains entry.id).trans hknown
  cases hmove with
  | edit id hedit => exact hkept (Stage.undo_commit _ _ _) fun other => Stage.contains_commit _ _ _ _
  | add kind =>
    refine Stage.Logged.of_subset h ?_ ?_
    · exact List.Subset.refl _
    intro entry _ hknown
    obtain ⟨sprite, hsprite⟩ := (Store.contains_iff_get? _ _).1 hknown
    have hreact := (Stage.sameRuns_react { s.stage with store := s.stage.store.add kind }).contains
    refine (hreact entry.id).trans ((Store.contains_iff_get? _ _).2 ?_)
    refine ⟨sprite, (s.stage.store.get?_add kind entry.id).trans ?_⟩
    rw [hsprite, Option.some_or]
  | select id =>
    refine hkept ?_ ?_
    · rfl
    intro other
    rw [Bool.eq_iff_iff, Store.contains_iff_get?, Store.contains_iff_get?]
    simp only [onStage, Stage.select, Store.get?_select]
  | unselect => exact ⟨h.known, h.own, h.atRest⟩
  | delete id =>
    have hentries : (s.stage.delete id).undo.entries ⊆ s.stage.undo.entries ∧
        ∀ entry ∈ (s.stage.delete id).undo.entries, entry.id ≠ id := by
      unfold Stage.delete
      split
      case isTrue =>
        refine ⟨List.filter_subset_self _, ?_⟩
        intro entry hentry
        simpa using (List.mem_filter.1 hentry).2
      case isFalse hunknown =>
        refine ⟨List.Subset.refl _, ?_⟩
        rintro entry hentry rfl
        exact hunknown (h.known entry hentry)
    apply h.of_subset hentries.1
    intro entry hentry
    simp only [Store.contains_iff_get?, Stage.get?_delete, if_neg (hentries.2 entry hentry)]
    exact fun hknown => hknown
  | movePointer pointer => exact ⟨h.known, h.own, h.atRest⟩
  | undo =>
    simp only [onStage, Stage.undoLast]
    split
    case h_1 => exact h
    case h_2 entry rest hpop =>
      apply h.of_subset
      · rw [Stage.undo_commit, UndoLog.entries_of_pop? hpop]
        exact List.subset_cons_self _ _
      · intro other _ hknown
        rw [Stage.contains_commit]
        exact (Store.contains_update _ _ _ _).trans hknown
  | reset =>
    have hempty (entry : UndoEntry α) : entry ∉ s.stage.reset.undo.entries := List.not_mem_nil
    refine ⟨?_, ?_, ?_⟩
    all_goals
      intro entry hentry
      exact absurd hentry (hempty entry)
  | switchHero enabled =>
    exact hkept (Stage.undo_switchHero _ _) (Stage.sameRuns_switchHero enabled s.stage).contains
  | @halt id hknown =>
    obtain ⟨sprite, hsprite⟩ := (Store.contains_iff_get? _ _).1 hknown
    refine ⟨?_, ?_, ?_⟩
    all_goals
      intro entry hentry
      rw [undo_halt hsprite] at hentry
      rcases List.mem_cons.1 hentry with rfl | hold
    · exact (contains_halt id id s).trans hknown
    · exact (contains_halt id entry.id s).trans (h.known entry hold)
    · rfl
    · exact h.own entry hold
    · rfl
    · exact h.atRest entry hold
  | start hknown chain =>
    exact hkept (Stage.undo_commit _ _ _) fun other => contains_startChain _ _ _ _

theorem logged_handle {s : Session α} (h : s.stage.Logged) (event : Event α) :
    (s.handle event).stage.Logged := by
  cases event with
  | control control =>
    exact moves_induction (moves_perform control s) h fun _ _ hbefore hmove =>
      logged_of_move hbefore hmove
  | pass ms => exact h
  | step n =>
    rcases s.stage_handle_step n with hsame | ⟨t, w, _, _, hwrite⟩
    · rwa [hsame]
    · rw [hwrite]
      apply h.of_subset
      · rw [Stage.undo_write]
        exact List.Subset.refl _
      · intro entry _ hknown
        rwa [Stage.contains_write]

/-- In every session that comes about the log is about sprites that are there. -/
theorem Reachable.logged {s : Session α} (hs : s.Reachable) : s.stage.Logged :=
  hs.induction (motive := fun s => s.stage.Logged) (fun _ _ => ⟨nofun, nofun, nofun⟩)
    fun _ event h => logged_handle h event

/-- Restarting a sprite records a snapshot of it if chains are started. -/
theorem priors_startChosen {s : Session α} (h : s.stage.Tracked) {choose : Program → List Chain}
    (hnil : choose [] = []) (id other : Nat) :
    (s.startChosen choose id).stage.undo.priors other =
      if id = other then s.recordRun choose other (s.stage.undo.priors other)
      else s.stage.undo.priors other := by
  have hunchanged {chains : List Chain} (hchains : choose (s.stage.programOf id) = chains)
      (hnone : chains = []) : s.startChosen choose id = s := by
    rw [startChosen, hchains, hnone]
  cases hsprite : s.stage.store.get? id with
  | none =>
    have hprogram : s.stage.programOf id = [] := by rw [Stage.programOf, hsprite]; rfl
    rw [hunchanged (by rw [hprogram]) hnil]
    split
    case isTrue hid => rw [recordRun, ← hid, hsprite]
    case isFalse => rfl
  | some sprite =>
    have hprogram := Stage.programOf_of_get? hsprite
    by_cases hstarts : choose sprite.program = []
    · rw [hunchanged (by rw [hprogram]) hstarts]
      split
      case isTrue hid =>
        rw [recordRun, ← hid, hsprite]
        exact (if_pos (List.isEmpty_iff.2 hstarts)).symm
      case isFalse => rfl
    · rw [undo_startChosen h.wellFormed hsprite hstarts, UndoLog.priors_push]
      split
      case isTrue hid =>
        rw [recordRun, ← hid, hsprite]
        exact (if_neg (List.isEmpty_iff.not.2 hstarts)).symm
      case isFalse => rfl

/-- Restarting several sprites records one snapshot for each on which chains are started. -/
theorem priors_startAll {choose : Program → List Chain} (hnil : choose [] = []) {ids : List Nat}
    (hnodup : ids.Nodup) {s : Session α} (h : s.stage.Tracked) (other : Nat) :
    (ids.foldl (fun s id => s.startChosen choose id) s).stage.undo.priors other =
      if other ∈ ids then s.recordRun choose other (s.stage.undo.priors other)
      else s.stage.undo.priors other := by
  induction ids generalizing s with
  | nil => rfl
  | cons id rest ih =>
    rw [List.nodup_cons] at hnodup
    have hfirst := priors_startChosen h hnil id other
    rw [List.foldl_cons, ih hnodup.2 ((silent_startChosen choose id).tracked s h), hfirst]
    by_cases hid : id = other
    · subst hid
      rw [if_neg hnodup.1, if_pos rfl, if_pos List.mem_cons_self]
    · have hget : (s.startChosen choose id).stage.store.get? other = s.stage.store.get? other :=
        congrArg (Option.map _) (slot?_startChosen_of_ne h choose (Ne.symm hid))
      have hrecord : (s.startChosen choose id).recordRun choose other =
          s.recordRun choose other := by
        unfold recordRun
        rw [hget]
      rw [if_neg hid, hrecord]
      simp only [List.mem_cons, Ne.symm hid, false_or]

/-- An undo takes the newest snapshot of the undone sprite off. -/
theorem priors_undoLast {stage : Stage α} (h : stage.Logged) (id : Nat) :
    stage.undoLast.undo.priors id =
      if stage.undone? = some id then (stage.undo.priors id).tail else stage.undo.priors id := by
  cases hpop : stage.undo.pop? with
  | none =>
    rw [Stage.undoLast, Stage.undone?, hpop]
    rfl
  | some popped =>
    obtain ⟨entry, rest⟩ := popped
    rw [h.undone?_of_pop? hpop, Stage.undoLast, hpop, UndoLog.priors_of_pop? hpop]
    simp only [Stage.undo_commit, Option.some.injEq]
    split <;> rfl

/-- The undo log keeps the record. -/
theorem priors_handle {s : Session α} (h : s.stage.Tracked) (hlogged : s.stage.Logged)
    (event : Event α) (id : Nat) : (s.handle event).stage.undo.priors id =
      s.record id event (s.stage.undo.priors id) := by
  have hkept (hundo : (s.handle event).stage.undo = s.stage.undo)
      (hrecord : s.record id event (s.stage.undo.priors id) = s.stage.undo.priors id) :
      (s.handle event).stage.undo.priors id = s.record id event (s.stage.undo.priors id) := by
    rw [hundo, hrecord]
  cases event with
  | pass ms => rfl
  | step n =>
    refine hkept ?_ rfl
    rcases s.stage_handle_step n with hsame | ⟨t, w, _, _, hwrite⟩
    · rw [hsame]
    · rw [hwrite, Stage.undo_write]
  | control control =>
    cases control with
    | add kind => rfl
    | select other => rfl
    | unselect => rfl
    | delete other => exact hlogged.priors_delete id other
    | setPosition other axis value => exact hkept (Stage.undo_commit _ _ _) rfl
    | moveTo other position => exact hkept (Stage.undo_commit _ _ _) rfl
    | setRotation other rotation => exact hkept (Stage.undo_commit _ _ _) rfl
    | changeSize other delta => exact hkept (Stage.undo_commit _ _ _) rfl
    | setProgram other program => exact hkept (Stage.undo_commit _ _ _) rfl
    | movePointer pointer => rfl
    | run other => exact priors_startChosen h rfl other id
    | runAll =>
      have hnodup : s.stage.store.ids.Nodup := h.wellFormed.ascending.imp Nat.ne_of_lt
      refine (priors_startAll rfl hnodup h id).trans ?_
      split
      case isTrue => rfl
      case isFalse hunknown =>
        rw [Store.mem_ids_iff_contains] at hunknown
        change _ = s.recordRun Program.topLevel id (s.stage.undo.priors id)
        rw [recordRun, Store.get?_of_unknown hunknown]
    | undo => exact priors_undoLast hlogged id
    | reset => rfl
    | switchHero enabled => exact hkept (Stage.undo_switchHero _ _) rfl
    | toggleHero => exact hkept (Stage.undo_switchHero _ _) rfl

/-- The undo log holds the snapshots that were taken. -/
theorem priors_play {s : Session α} (hs : s.Reachable) (events : List (Event α)) (id : Nat) :
    (s.play events).stage.undo.priors id = s.snapshots id events (s.stage.undo.priors id) := by
  induction events generalizing s with
  | nil => rfl
  | cons event rest ih =>
    have hnext : (s.handle event).Reachable := hs.play [event]
    rw [play_cons, ih hnext, snapshots, priors_handle hs.tracked hs.logged]

end Session

end SpriteStage
