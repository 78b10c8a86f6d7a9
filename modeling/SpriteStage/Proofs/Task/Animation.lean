import SpriteStage.Proofs.Task.Phases
import SpriteStage.Proofs.Task.Writes

namespace SpriteStage

variable {α : Type}

/-- Whether a sprite shows a glide; nothing for a sprite that is not there. -/
def Store.animated? (store : Store α) (id : Nat) : Option Bool :=
  (store.get? id).map fun sprite => sprite.animation.isSome

/-- Whether a glide is shown is not traded. -/
theorem Store.untraded_animation :
    Store.Untraded fun sprite : Sprite α => sprite.animation.isSome :=
  fun _ _ _ _ => rfl

/-- The work that glides is that of a chain in the middle of a glide. -/
theorem Work.isGliding_eq_true_iff {work : Work α} : work.isGliding = true ↔
    ∃ cursor origin target durationMs started,
      work = .chain ⟨cursor, .glide origin target durationMs started⟩ := by
  constructor
  · intro hglide
    unfold isGliding at hglide
    split at hglide
    case h_1 => exact ⟨_, _, _, _, _, rfl⟩
    case h_2 => cases hglide
  · rintro ⟨cursor, origin, target, durationMs, started, rfl⟩
    rfl

theorem Task.isChain_of_isGliding {t : Task α} (hglide : t.work.isGliding = true) : t.isChain = true := by
  obtain ⟨_, _, _, _, _, hwork⟩ := Work.isGliding_eq_true_iff.1 hglide
  exact isChain_of_work hwork

/-- The step has left the task in the middle of a glide. -/
def StepResult.isGliding (result : StepResult α) : Bool :=
  result.next.any fun (work, _) => work.isGliding

variable [Scalar α]

namespace Stage

theorem animated?_react (stage : Stage α) (id : Nat) :
    stage.react.store.animated? id = stage.store.animated? id :=
  HeroMode.map_get?_settle Store.untraded_animation stage.hero stage.store id

/-- Committing a change shows in the mark of its sprite and of no other. -/
theorem animated?_commit (id other : Nat) (change : Sprite α → Sprite α) (stage : Stage α) :
    (stage.commit id change).store.animated? other =
      if other = id then (stage.store.get? id).map fun sprite => (change sprite).animation.isSome
      else stage.store.animated? other :=
  map_get?_commit Store.untraded_animation id other change stage

/-- A change that keeps the animation keeps all marks. -/
theorem animated?_commit_of_kept {change : Sprite α → Sprite α}
    (hkept : ∀ sprite, (change sprite).animation = sprite.animation) (id other : Nat) (stage : Stage α) :
    (stage.commit id change).store.animated? other = stage.store.animated? other :=
  map_get?_commit_of_kept Store.untraded_animation
    (fun sprite => congrArg Option.isSome (hkept sprite)) id other stage

/-- A chain that signs off leaves the marks alone. -/
theorem animated?_signOff (id other : Nat) (token : Token) (stage : Stage α) :
    (stage.signOff id token).store.animated? other = stage.store.animated? other := by
  unfold signOff
  dsimp only
  split
  · refine animated?_commit_of_kept ?_ _ _ _
    exact fun _ => rfl
  · rfl

end Stage

/-- If a block leaves its sprite with a glide, it is its own or the sprite showed one before. -/
theorem Block.isGliding_of_animated {b : Block} {sprite : Sprite α} {context : Context α}
    (hshown : ((b.dispatch sprite context).change?.elim sprite fun change =>
      change sprite).animation.isSome = true) (rest : Cursor) (now : Nat) :
    (Work.chain ⟨rest, ((b.dispatch sprite context).after sprite.position).phase now⟩).isGliding = true ∨
      sprite.animation.isSome = true := by
  have hwritten {next : Sprite α} (hnext : (b.dispatch sprite context).sprite? = some next)
      (hshown : next.animation.isSome = true) : sprite.animation.isSome = true := by
    rcases (Block.leaves_of_dispatch hnext).animation with hsame | hnone
    · rwa [← hsame]
    · rw [hnone] at hshown
      cases hshown
  cases heffect : b.dispatch sprite context with
  | glide target durationMs => exact Or.inl rfl
  | update next =>
    rw [heffect] at hshown hwritten
    exact Or.inr (hwritten rfl hshown)
  | speakFor next clearAfterMs =>
    rw [heffect] at hshown hwritten
    exact Or.inr (hwritten rfl hshown)
  | wait | repeatAbove | pass =>
    rw [heffect] at hshown
    exact Or.inr hshown

namespace ChainRun

/-- A dispatch after which a glide is shown began it, or it was shown before. -/
theorem animated?_stepDispatch {now id : Nat} {cursor : Cursor} {stage : Stage α}
    (hshown : (stepDispatch now id cursor stage).stage.store.animated? id = some true) :
    (stepDispatch now id cursor stage).isGliding = true ∨ stage.store.animated? id = some true := by
  by_cases hdue : ∃ b rest, cursor.advance stage.config.maxSteps = .due b rest
  · obtain ⟨b, rest, hturn⟩ := hdue
    obtain ⟨point, random, hdraw⟩ := stage.drawFor_eq b
    rw [stepDispatch_of_due hturn] at hshown ⊢
    cases hsprite : stage.store.get? id with
    | none =>
      rw [Stage.execute_of_unknown hsprite] at hshown
      exact Or.inr (Stage.store_drawFor b stage ▸ hshown)
    | some sprite =>
      have hexecute := Stage.execute_of_get? hsprite (hdraw stage.hero)
      rw [hexecute] at hshown ⊢
      dsimp only at hshown
      rw [Store.animated?, Stage.map_get?_write Store.untraded_animation, if_pos rfl, hsprite,
        Option.map_some, Option.some.injEq] at hshown
      rw [Store.animated?, hsprite, Option.map_some, Option.some.injEq]
      exact Block.isGliding_of_animated hshown _ now
  · have hturn : ∀ b rest, cursor.advance stage.config.maxSteps ≠ .due b rest := by
      simpa using hdue
    obtain ⟨how, hend⟩ := stepDispatch_of_not_due (α := α) hturn
    rw [hend stage now id rfl] at hshown
    exact Or.inr hshown

/-- The last frame of a glide takes its mark away, and any other leaves the chain in the glide. -/
theorem isGliding_stepGlide {now id : Nat} {cursor : Cursor} {origin target : Position α}
    {durationMs : Float} {started : Nat} {stage : Stage α}
    (hshown : (stepGlide now id cursor origin target durationMs started stage).stage.store.animated? id =
      some true) : (stepGlide now id cursor origin target durationMs started stage).isGliding = true := by
  unfold stepGlide at hshown ⊢
  split at hshown
  case isTrue hknown =>
    rw [if_pos hknown]
    split at hshown
    case h_1 => rfl
    case h_2 =>
      simp only [goOn, Stage.animated?_commit, if_true, Option.isSome_none] at hshown
      obtain ⟨_, _, hnone⟩ := Option.map_eq_some_iff.1 hshown
      cases hnone
  case isFalse hunknown =>
    rw [goOn, Store.animated?, Store.get?_of_unknown hunknown] at hshown
    cases hshown

end ChainRun

namespace Task

variable {stage : Stage α} {t : Task α} {now id : Nat}

/-- If the sprite of a task shows a glide after a step, the step has left the task in the middle of one,
    or the sprite showed one before and the task was not in one that is under way. -/
theorem animated?_step_self
    (hshown : (t.step now stage).stage.store.animated? t.sprite = some true) :
    (t.step now stage).isGliding = true ∨ (stage.store.animated? t.sprite = some true ∧
      ¬ (stage.registry.isCancelled t.token = false ∧ t.work.isGliding = true)) := by
  unfold step at hshown ⊢
  cases hlive : stage.registry.isCancelled t.token with
  | true =>
    simp only [hlive, if_true] at hshown
    exact Or.inr ⟨hshown, nofun⟩
  | false =>
    simp only [hlive, Bool.false_eq_true, if_false] at hshown ⊢
    cases hwork : t.work with
    | clearSpeech delay armed =>
      refine Or.inr ⟨?_, nofun⟩
      cases armed with
      | false => simpa only [hwork] using hshown
      | true =>
        simp only [hwork] at hshown
        refine (Stage.animated?_commit_of_kept ?_ _ _ _).symm.trans hshown
        exact fun _ => rfl
    | chain run =>
      obtain ⟨cursor, phase⟩ := run
      simp only [hwork] at hshown ⊢
      cases phase with
      | glide => exact Or.inl (ChainRun.isGliding_stepGlide hshown)
      | signOff how => exact Or.inr ⟨(Stage.animated?_signOff ..).symm.trans hshown, nofun⟩
      | dispatch =>
        rcases ChainRun.animated?_stepDispatch hshown with hglide | hbefore
        · exact Or.inl hglide
        · exact Or.inr ⟨hbefore, nofun⟩

/-- A step shows on its own sprite alone. -/
theorem animated?_step_of_ne (hother : id ≠ t.sprite) :
    (t.step now stage).stage.store.animated? id = stage.store.animated? id :=
  map_get?_step_of_ne Store.untraded_animation hother now

end Task

end SpriteStage
