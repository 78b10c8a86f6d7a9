import SpriteStage.Proofs.Cursor.Walk
import SpriteStage.Proofs.Task.Step

namespace SpriteStage

variable {α : Type}

/-- All that the task has still to do as a chain. -/
def Work.plan (limit : Nat) : Work α → List (Act Block)
  | .chain ⟨_, .signOff how⟩ => [.finish how]
  | .chain ⟨cursor, _⟩ => cursor.plan limit
  | .clearSpeech _ _ => []

/-- How many steps the task has still to take as a chain at most, the frames of its glides apart: a
    dispatch and the end of a glide for each block, one to find the end, and the sign-off. -/
def Work.stepsLeft (limit : Nat) : Work α → Nat
  | .chain ⟨_, .signOff _⟩ => 1
  | .chain ⟨cursor, .dispatch⟩ => 2 * (cursor.plan limit).length
  | .chain ⟨cursor, .glide ..⟩ => 2 * (cursor.plan limit).length + 1
  | .clearSpeech _ _ => 0

section Dispatch

variable [Scalar α]

/-- Behind a block that was carried out on a sprite that is there, a chain goes on at the next place of its
    walk, whatever the stage is like. -/
theorem Stage.cursor_execute {stage : Stage α} {id : Nat} (hknown : stage.store.contains id = true) (b : Block)
    (limit : Nat) (c : Cursor) (rest : List Block) :
    (stage.execute id b).2.cursor limit c.previous (c.leave b rest) = c.pass limit b rest := by
  have hrepeat := Stage.execute_eq_repeatAbove_iff hknown b
  unfold Cursor.pass
  split
  case isTrue hkind => rw [(hrepeat b.repeatTimes).2 ⟨Block.is_iff_kind?.1 hkind, rfl⟩, After.cursor]
  case isFalse hkind =>
    cases hhow : (stage.execute id b).2 with
    | repeatAbove times => exact absurd (Block.is_iff_kind?.2 ((hrepeat times).1 hhow).1) hkind
    | _ => rfl

/-- On a sprite that is there, the block that is due is carried out, and the chain goes on with its walk. -/
theorem ChainRun.stepDispatch_of_known {cursor behind : Cursor} {b : Block} {stage : Stage α} {id : Nat}
    (hturn : cursor.advance stage.config.maxSteps = .due b behind)
    (hknown : stage.store.contains id = true) (now : Nat) :
    stepDispatch now id cursor stage =
      let (after, how) := stage.execute id b
      let next := cursor.pass stage.config.maxSteps b behind.rest
      ⟨after, some (.chain ⟨next, how.phase now⟩, how.pause (pauseBefore stage next)), how.delay?⟩ := by
  obtain ⟨rest, -, -, rfl⟩ := Cursor.advance_eq_due_iff.1 hturn
  have hnext := Stage.cursor_execute hknown b stage.config.maxSteps cursor rest
  rw [stepDispatch_of_due hturn]
  simp only [hnext]
  rfl

omit [Scalar α] in
/-- A chain that goes on has all of the place before it, and the end of a glide at most beside it. -/
theorem After.plan_phase {how : After α} (hgoes : how ≠ .stop) (limit now : Nat) (c : Cursor) :
    Work.plan limit (.chain ⟨c, how.phase now⟩) = c.plan limit ∧
      Work.stepsLeft limit (.chain ⟨c, how.phase now⟩) ≤ 2 * (c.plan limit).length + 1 := by
  cases how with
  | stop => exact absurd rfl hgoes
  | glide => exact ⟨rfl, Nat.le_refl _⟩
  | _ => exact ⟨rfl, Nat.le_succ _⟩

end Dispatch

namespace Task

/-- What the next step of the task does on a stage: it carries out a block on the sprite, it signs
    the chain off, or neither. -/
def act? (stage : Stage α) (t : Task α) : Option (Act Block) :=
  if stage.registry.isCancelled t.token then none
  else
    match t.work with
    | .chain ⟨cursor, .dispatch⟩ =>
      match cursor.advance stage.config.maxSteps with
      | .due b _ => if stage.store.contains t.sprite then some (.dispatch b) else none
      | _ => none
    | .chain ⟨_, .signOff how⟩ => some (.finish how)
    | _ => none

/-- A task that was cancelled does not act. -/
theorem act?_of_cancelled {stage : Stage α} {t : Task α}
    (hcancelled : stage.registry.isCancelled t.token = true) : t.act? stage = none :=
  if_pos hcancelled

/-- A task that dispatches a block is a chain under way on a sprite that is there, and the block is due
    in it. -/
theorem dispatch_of_act? {stage : Stage α} {t : Task α} {b : Block}
    (hact : t.act? stage = some (.dispatch b)) :
    stage.registry.isCancelled t.token = false ∧ stage.store.contains t.sprite = true ∧
      ∃ cursor rest, t.work = .chain ⟨cursor, .dispatch⟩ ∧
        cursor.advance stage.config.maxSteps = .due b rest := by
  unfold act? at hact
  split at hact
  case isTrue => cases hact
  case isFalse hlive =>
    split at hact
    case h_1 cursor hwork =>
      split at hact
      case h_1 due rest hturn =>
        split at hact
        case isTrue hknown =>
          cases hact
          exact ⟨by simpa using hlive, hknown, cursor, rest, hwork, hturn⟩
        case isFalse => cases hact
      case h_2 => cases hact
    case h_2 => cases hact
    case h_3 => cases hact

variable [Scalar α]

/-- The next step of the task draws a frame of a glide that is not over. -/
def isMidGlide (now : Nat) (t : Task α) : Bool :=
  match t.work with
  | .chain ⟨_, .glide _ _ durationMs started⟩ =>
    (glideFraction? durationMs (now - started) : Option α).isSome
  | _ => false

/-- To dispatch a block is to carry it out on the sprite of the task, and to start a timer if the
    block asks for one. -/
theorem step_of_dispatch {stage : Stage α} {t : Task α} {b : Block}
    (hact : t.act? stage = some (.dispatch b)) (now : Nat) : ∃ next, t.step now stage =
      ⟨(stage.execute t.sprite b).1, next, (stage.execute t.sprite b).2.delay?⟩ := by
  obtain ⟨hlive, _, cursor, behind, hwork, hturn⟩ := dispatch_of_act? hact
  have hnot : ¬ stage.registry.isCancelled t.token = true := by simp [hlive]
  rw [step, if_neg hnot, hwork]
  exact ⟨_, ChainRun.stepDispatch_of_due hturn now t.sprite⟩

/-- The plan of a chain under way is what its next step does and what is left to it then. -/
theorem plan_step {stage : Stage α} {t : Task α}
    (hlive : stage.registry.isCancelled t.token = false)
    (hknown : stage.store.contains t.sprite = true) (hchain : t.isChain = true) (now : Nat) :
    t.work.plan stage.config.maxSteps = (t.act? stage).toList ++
      (t.step now stage).next.elim [] fun (work, _) => work.plan stage.config.maxSteps := by
  have hnot : ¬ stage.registry.isCancelled t.token = true := by simp [hlive]
  rw [act?, step, if_neg hnot, if_neg hnot]
  cases hwork : t.work with
  | clearSpeech => simp [isChain, hwork] at hchain
  | chain run =>
    obtain ⟨cursor, phase⟩ := run
    cases phase with
    | signOff how => rfl
    | glide origin target durationMs started =>
      simp only [ChainRun.step, ChainRun.stepGlide, hknown, if_true]
      split <;> rfl
    | dispatch =>
      simp only [ChainRun.step]
      cases hturn : cursor.advance stage.config.maxSteps with
      | finished =>
        simp only [ChainRun.stepDispatch, hturn]
        exact Cursor.plan_of_finished hturn
      | runaway =>
        simp only [ChainRun.stepDispatch, hturn]
        exact Cursor.plan_of_runaway hturn
      | due b behind =>
        obtain ⟨hplan, -⟩ := After.plan_phase (Stage.goesOn_execute hknown b).not_stop
          stage.config.maxSteps now (cursor.pass stage.config.maxSteps b behind.rest)
        rw [ChainRun.stepDispatch_of_known hturn hknown]
        simp only [hknown, if_true, Option.elim_some, hplan]
        exact Cursor.plan_of_due hturn

/-- Each step of a chain under way brings it closer to its end, but for the frames of a glide. -/
theorem stepsLeft_step {stage : Stage α} {t : Task α}
    (hlive : stage.registry.isCancelled t.token = false)
    (hknown : stage.store.contains t.sprite = true) (hchain : t.isChain = true) (now : Nat) :
    ((t.step now stage).next.elim 0 fun (work, _) => work.stepsLeft stage.config.maxSteps) +
      (!t.isMidGlide now).toNat ≤ t.work.stepsLeft stage.config.maxSteps := by
  have hnot : ¬ stage.registry.isCancelled t.token = true := by simp [hlive]
  rw [isMidGlide, step, if_neg hnot]
  cases hwork : t.work with
  | clearSpeech => simp [isChain, hwork] at hchain
  | chain run =>
    obtain ⟨cursor, phase⟩ := run
    cases phase with
    | signOff how => exact Nat.le_refl 1
    | glide origin target durationMs started =>
      simp only [ChainRun.step, ChainRun.stepGlide, hknown, if_true]
      cases (glideFraction? durationMs (now - started) : Option α) with
      | none => exact Nat.le_refl _
      | some t => exact Nat.le_refl _
    | dispatch =>
      have hleft : Work.stepsLeft stage.config.maxSteps (.chain ⟨cursor, .dispatch⟩ : Work α) =
        2 * (cursor.plan stage.config.maxSteps).length := rfl
      simp only [ChainRun.step, hleft]
      cases hturn : cursor.advance stage.config.maxSteps with
      | finished =>
        simp only [ChainRun.stepDispatch, hturn, Cursor.plan_of_finished hturn]
        exact Nat.le_refl 2
      | runaway =>
        simp only [ChainRun.stepDispatch, hturn, Cursor.plan_of_runaway hturn]
        exact Nat.le_refl 2
      | due b behind =>
        obtain ⟨-, hsteps⟩ := After.plan_phase (Stage.goesOn_execute hknown b).not_stop
          stage.config.maxSteps now (cursor.pass stage.config.maxSteps b behind.rest)
        rw [ChainRun.stepDispatch_of_known hturn hknown, Cursor.plan_of_due hturn, List.length_cons]
        simp only [Option.elim_some, Bool.not_false, Bool.toNat_true]
        omega

end Task

end SpriteStage
