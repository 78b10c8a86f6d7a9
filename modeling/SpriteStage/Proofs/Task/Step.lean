import SpriteStage.Proofs.Program.Reading
import SpriteStage.Proofs.Stage.Runs
import SpriteStage.Proofs.TaskRegistry.Tokens

namespace SpriteStage

variable {α : Type} [Scalar α]

namespace After

/-- The delay of the timer that comes with going on. -/
def delay? : After α → Option Delay
  | .advanceAndClear delay => some delay
  | _ => none

/-- What a chain does next once it has carried out a block. -/
def phase (now : Nat) : After α → Phase α
  | .glide origin target durationMs => .glide origin target durationMs now
  | .stop => .signOff .stopped
  | _ => .dispatch

/-- How long a chain sleeps after a block, given the pause before the next one. -/
def pause (before : Nat) : After α → Nat
  | .advance | .advanceAndClear _ => before
  | .sleep delay => delay.millis
  | _ => 0

/-- Where a chain goes on, given the block that was dispatched before and the place behind this one. -/
def cursor (limit : Nat) (previous : Option Block) (behind : Cursor) : After α → Cursor
  | .repeatAbove times => behind.splice previous times limit
  | _ => behind

end After

namespace Stage

/-- What is left of a stage after a block: the chain goes on, the running flags are as before, and
    the registry has been touched only for a timer. -/
structure GoesOn (stage : Stage α) (id : Nat) (result : Stage α × After α) : Prop where
  sameRuns : stage.SameRuns result.1
  not_stop : result.2 ≠ .stop
  registry : result.1.registry =
    if result.2.delay?.isSome then stage.registry.ensure id else stage.registry

/-- No block stops a chain on a sprite that is there. -/
theorem goesOn_execute {id : Nat} {stage : Stage α} (hknown : stage.store.contains id = true)
    (b : Block) : stage.GoesOn id (stage.execute id b) := by
  obtain ⟨sprite, hsprite⟩ := (stage.store.contains_iff_get? id).1 hknown
  have hruns := sameRuns_drawFor b stage
  have hregistry := registry_drawFor b stage
  have hstore := store_drawFor b stage
  unfold execute
  generalize stage.drawFor b = drawn at hruns hregistry hstore
  obtain ⟨point, drawn⟩ := drawn
  dsimp only at hruns hregistry hstore
  simp only [hstore, hsprite]
  have hwritten (next : Sprite α)
      (hnext : (b.dispatch sprite ⟨drawn.pointer, point, drawn.config.sayDisplayMs⟩).sprite? =
        some next) : stage.SameRuns (drawn.commit id fun _ => next) := by
    apply hruns.trans
    apply sameRuns_commit
    intro old hold
    rw [hstore, hsprite] at hold
    cases hold
    exact (Block.leaves_of_dispatch hnext).isRunning
  cases heffect : b.dispatch sprite ⟨drawn.pointer, point, drawn.config.sayDisplayMs⟩ with
  | update next =>
    have hcommit := hwritten next (by rw [heffect]; rfl)
    exact ⟨hcommit, nofun, (registry_commit _ _ _).trans hregistry⟩
  | speakFor next clearAfterMs =>
    have hcommit := hwritten next (by rw [heffect]; rfl)
    refine ⟨⟨hcommit.config, hcommit.nextId, hcommit.running?⟩, nofun, ?_⟩
    exact congrArg (·.ensure id) ((registry_commit _ _ _).trans hregistry)
  | glide target durationMs =>
    have hcommit : drawn.SameRuns (drawn.commit id fun s => { s with animation := some ⟨durationMs⟩ }) :=
      sameRuns_commit fun _ _ => rfl
    exact ⟨hruns.trans hcommit, nofun, (registry_commit _ _ _).trans hregistry⟩
  | wait durationMs => exact ⟨hruns, nofun, hregistry⟩
  | repeatAbove times => exact ⟨hruns, nofun, hregistry⟩
  | pass => exact ⟨hruns, nofun, hregistry⟩

/-- A chain on a sprite that is there goes on with copies after a repeat and after no other block, and
    with as many as the repeat counts. -/
theorem execute_eq_repeatAbove_iff {id : Nat} {stage : Stage α} (hknown : stage.store.contains id = true)
    (b : Block) (times : Float) :
    (stage.execute id b).2 = .repeatAbove times ↔
      b.kind? = some .repeatAbove ∧ times = b.repeatTimes := by
  obtain ⟨sprite, hsprite⟩ := (stage.store.contains_iff_get? id).1 hknown
  have hstore := store_drawFor b stage
  unfold execute
  generalize stage.drawFor b = drawn at hstore
  obtain ⟨point, drawn⟩ := drawn
  dsimp only at hstore
  simp only [hstore, hsprite]
  rw [← b.dispatch_eq_repeatAbove_iff sprite ⟨drawn.pointer, point, drawn.config.sayDisplayMs⟩]
  cases b.dispatch sprite ⟨drawn.pointer, point, drawn.config.sayDisplayMs⟩ <;> simp

end Stage

namespace ChainRun

/-- A block that is due is carried out, and the chain goes on as the block asks for. -/
theorem stepDispatch_of_due {cursor behind : Cursor} {b : Block} {stage : Stage α}
    (hturn : cursor.advance stage.config.maxSteps = .due b behind) (now id : Nat) :
    stepDispatch now id cursor stage =
      let (after, how) := stage.execute id b
      let next := how.cursor stage.config.maxSteps cursor.previous behind
      ⟨after, some (.chain ⟨next, how.phase now⟩, how.pause (pauseBefore stage next)), how.delay?⟩ := by
  simp only [stepDispatch, hturn]
  obtain ⟨after, how⟩ := stage.execute id b
  cases how <;> rfl

/-- A chain without a block that is due finds itself at its end, on whatever stage that is. -/
theorem stepDispatch_of_not_due {cursor : Cursor} {limit : Nat}
    (hturn : ∀ b behind, cursor.advance limit ≠ .due b behind) :
    ∃ how, ∀ (stage : Stage α) (now id : Nat), stage.config.maxSteps = limit →
      stepDispatch now id cursor stage = goOn stage cursor (.signOff how) 0 none := by
  cases hend : cursor.advance limit with
  | due b behind => exact absurd hend (hturn b behind)
  | finished =>
    refine ⟨.completed, ?_⟩
    rintro stage now id rfl
    simp only [stepDispatch, hend]
  | runaway =>
    refine ⟨.runaway, ?_⟩
    rintro stage now id rfl
    simp only [stepDispatch, hend]

/-- What a step of a chain leads to while the chain is under way on a sprite that is there. -/
structure StaysOn (stage : Stage α) (id : Nat) (result : StepResult α) : Prop where
  sameRuns : stage.SameRuns result.stage
  registry : result.stage.registry =
    if result.timer.isSome then stage.registry.ensure id else stage.registry
  next : ∃ run pause, result.next = some (.chain run, pause)

/-- The dispatch of a block stays within what a step may do. -/
theorem staysOn_stepDispatch {id : Nat} {stage : Stage α} (hknown : stage.store.contains id = true)
    (now : Nat) (cursor : Cursor) : StaysOn stage id (stepDispatch now id cursor stage) := by
  by_cases hdue : ∃ b behind, cursor.advance stage.config.maxSteps = .due b behind
  · obtain ⟨b, behind, hturn⟩ := hdue
    have hgoes := Stage.goesOn_execute hknown b
    rw [stepDispatch_of_due hturn]
    exact ⟨hgoes.sameRuns, hgoes.registry, _, _, rfl⟩
  · obtain ⟨how, hend⟩ := stepDispatch_of_not_due (α := α) (by simpa using hdue)
    rw [hend stage now id rfl]
    exact ⟨.refl stage, rfl, _, _, rfl⟩

/-- A turn of a glide stays within what a step may do. -/
theorem staysOn_stepGlide {id : Nat} {stage : Stage α} (hknown : stage.store.contains id = true)
    (now : Nat) (cursor : Cursor) (origin target : Position α) (durationMs : Float) (started : Nat) :
    StaysOn stage id (stepGlide now id cursor origin target durationMs started stage) := by
  unfold stepGlide
  rw [if_pos hknown]
  split
  all_goals
    refine ⟨Stage.sameRuns_commit ?_, Stage.registry_commit _ _ _, _, _, rfl⟩
    intro sprite _
    rfl

end ChainRun

namespace Task

/-- The task runs a chain; otherwise it is a speech timer. -/
def isChain (t : Task α) : Bool :=
  match t.work with
  | .chain _ => true
  | .clearSpeech _ _ => false

omit [Scalar α] in
theorem isChain_of_work {t : Task α} {run : ChainRun α} (hwork : t.work = .chain run) :
    t.isChain = true := by
  simp only [isChain, hwork]

/-- A cancelled task drops out. -/
theorem step_of_cancelled {stage : Stage α} {t : Task α}
    (hcancelled : stage.registry.isCancelled t.token = true) (now : Nat) :
    t.step now stage = ⟨stage, none, none⟩ :=
  if_pos hcancelled

/-- All that one step of a task can do. -/
inductive Stepped (stage : Stage α) (t : Task α) : StepResult α → Prop where
  | cancelled (hcancelled : stage.registry.isCancelled t.token = true) : Stepped stage t ⟨stage, none, none⟩
  | staysOn (hlive : stage.registry.isCancelled t.token = false) (hchain : t.isChain = true)
      {result : StepResult α} (hstays : ChainRun.StaysOn stage t.sprite result) : Stepped stage t result
  | signOff (hlive : stage.registry.isCancelled t.token = false) {cursor : Cursor} {how : ChainEnd}
      (hwork : t.work = .chain ⟨cursor, .signOff how⟩) :
      Stepped stage t ⟨stage.signOff t.sprite t.token, none, none⟩
  | armed (htimer : t.isChain = false) (delay : Delay) (pause : Nat) :
      Stepped stage t ⟨stage, some (.clearSpeech delay true, pause), none⟩
  | cleared (htimer : t.isChain = false) :
      Stepped stage t ⟨stage.commit t.sprite fun s => { s with speech := .cleared }, none, none⟩

namespace Stepped

variable {stage : Stage α} {t : Task α} {result : StepResult α}

/-- A chain goes on as a chain and a timer as a timer. -/
theorem isChain_of_next (h : t.Stepped stage result) {work : Work α} {pause : Nat}
    (hnext : result.next = some (work, pause)) {other : Task α} (hother : other.work = work) :
    other.isChain = t.isChain := by
  cases h with
  | staysOn hlive hchain hstays =>
    obtain ⟨run, _, hrun⟩ := hstays.next
    rw [hrun] at hnext
    cases hnext
    rw [hchain, isChain_of_work hother]
  | armed htimer =>
    cases hnext
    rw [htimer, isChain, hother]
  | cancelled | signOff | cleared => cases hnext

/-- A chain under way ends with its sign-off only. -/
theorem signOff_of_next (h : t.Stepped stage result) (hchain : t.isChain = true)
    (hlive : stage.registry.isCancelled t.token = false) (hnext : result.next = none) :
    ∃ cursor how, t.work = .chain ⟨cursor, .signOff how⟩ := by
  cases h with
  | cancelled hcancelled => exact absurd (hlive.symm.trans hcancelled) nofun
  | staysOn _ _ hstays =>
    obtain ⟨run, _, hrun⟩ := hstays.next
    exact absurd (hrun.symm.trans hnext) nofun
  | signOff _ hwork => exact ⟨_, _, hwork⟩
  | armed => cases hnext
  | cleared htimer => exact absurd (hchain.symm.trans htimer) nofun

/-- A step leaves the settings alone. -/
theorem config (h : t.Stepped stage result) : result.stage.config = stage.config := by
  cases h with
  | cancelled => rfl
  | staysOn hlive hchain hstays => exact hstays.sameRuns.config
  | signOff => exact Stage.config_signOff _ _ _
  | armed => rfl
  | cleared => exact Stage.config_commit _ _ _

/-- A step takes no token back. -/
theorem grows (h : t.Stepped stage result) : stage.registry.Grows result.stage.registry := by
  cases h with
  | cancelled => exact .refl _
  | staysOn hlive hchain hstays =>
    rw [hstays.registry]
    split
    · exact .ensure _ _
    · exact .refl _
  | signOff hlive =>
    rw [Stage.registry_signOff]
    exact .finishChain _ _ hlive
  | armed => exact .refl _
  | cleared =>
    rw [Stage.registry_commit]
    exact .refl _

/-- No step cancels work. -/
theorem isCancelled (h : t.Stepped stage result) {token : Token}
    (hserial : token.serial < stage.registry.nextSerial) :
    result.stage.registry.isCancelled token = stage.registry.isCancelled token := by
  cases h with
  | cancelled => rfl
  | staysOn hlive hchain hstays =>
    rw [hstays.registry]
    split
    · exact TaskRegistry.isCancelled_ensure _ hserial
    · rfl
  | signOff =>
    rw [Stage.registry_signOff]
    exact TaskRegistry.isCancelled_finishChain _ _ _ _
  | armed => rfl
  | cleared => rw [Stage.registry_commit]

/-- No step takes the token of the timers from a sprite. -/
theorem holdsTimer (h : t.Stepped stage result) {token : Token}
    (htoken : stage.registry.Holds .timer token) : result.stage.registry.Holds .timer token := by
  cases h with
  | cancelled | armed => exact htoken
  | staysOn hlive hchain hstays =>
    rw [hstays.registry]
    split
    · exact htoken.ensure t.sprite
    · exact htoken
  | signOff hlive =>
    rw [Stage.registry_signOff]
    exact htoken.finishChain t.sprite hlive
  | cleared => rwa [Stage.registry_commit]

/-- Only signing a chain off that is under way changes the count of running chains. -/
theorem active (h : t.Stepped stage result) (id : Nat) :
    result.stage.registry.active id = stage.registry.active id ∨
      t.isChain = true ∧ t.sprite = id ∧ stage.registry.isCancelled t.token = false ∧
        result.next = none ∧ result.stage.registry.active id = stage.registry.active id - 1 := by
  cases h with
  | cancelled => exact Or.inl rfl
  | staysOn hlive hchain hstays =>
    rw [hstays.registry]
    split
    · exact Or.inl (TaskRegistry.active_ensure _ _ _)
    · exact Or.inl rfl
  | signOff hlive hwork =>
    rw [Stage.registry_signOff, TaskRegistry.active_finishChain hlive]
    by_cases hid : id = t.sprite
    · exact Or.inr ⟨isChain_of_work hwork, hid.symm, hlive, rfl, by rw [if_pos hid, hid]⟩
    · exact Or.inl (if_neg hid)
  | armed => exact Or.inl rfl
  | cleared => exact Or.inl (by rw [Stage.registry_commit])

end Stepped

/-- Every step does to flags, registry and work what a step may do. -/
theorem stepped_step {stage : Stage α} {t : Task α}
    (hknown : stage.registry.isCancelled t.token = false → stage.store.contains t.sprite = true)
    (now : Nat) : t.Stepped stage (t.step now stage) := by
  unfold step
  split
  case isTrue hcancelled => exact .cancelled hcancelled
  case isFalse hlive =>
    rw [Bool.not_eq_true] at hlive
    split
    case h_1 run hwork =>
      obtain ⟨cursor, phase⟩ := run
      have hchain := isChain_of_work hwork
      have hsprite := hknown hlive
      cases phase with
      | dispatch => exact .staysOn hlive hchain (ChainRun.staysOn_stepDispatch hsprite _ _)
      | glide => exact .staysOn hlive hchain (ChainRun.staysOn_stepGlide hsprite _ _ _ _ _ _)
      | signOff how => exact .signOff hlive hwork
    case h_2 delay hwork => exact .armed (by simp only [isChain, hwork]) delay _
    case h_3 delay hwork => exact .cleared (by simp only [isChain, hwork])

end Task

end SpriteStage
