import SpriteStage.Engine.Task
import SpriteStage.Proofs.Store.Lookup

namespace SpriteStage

variable {α : Type}

/-- Whether a sprite is running its program; nothing for a sprite that is not there. -/
def Store.running? (store : Store α) (id : Nat) : Option Bool :=
  (store.get? id).map (·.isRunning)

/-- The sprites that are there are those that have a flag. -/
theorem Store.contains_iff_running? (store : Store α) (id : Nat) :
    store.contains id = true ↔ store.running? id ≠ none := by
  rw [Store.contains_iff_get?, running?, ne_eq, Option.map_eq_none_iff, ← ne_eq,
    Option.ne_none_iff_exists']

/-- An update shows in the flag of its sprite and of no other. -/
theorem Store.running?_update (store : Store α) (id other : Nat) (change : Sprite α → Sprite α) :
    (store.update id change).running? other =
      if other = id then (store.get? id).map fun sprite => (change sprite).isRunning
      else store.running? other := by
  rw [running?, get?_update]
  split
  case isTrue => rw [Option.map_map]; rfl
  case isFalse => rfl

namespace Stage

/-- One stage has the sprites and the running flags of the other, and its settings. -/
structure SameRuns (before after : Stage α) : Prop where
  config : after.config = before.config
  nextId : after.store.nextId = before.store.nextId
  running? : ∀ id, after.store.running? id = before.store.running? id

theorem SameRuns.refl (stage : Stage α) : stage.SameRuns stage :=
  ⟨rfl, rfl, fun _ => rfl⟩

theorem SameRuns.trans {first middle last : Stage α} (hfirst : first.SameRuns middle)
    (hlast : middle.SameRuns last) : first.SameRuns last :=
  ⟨hlast.config.trans hfirst.config, hlast.nextId.trans hfirst.nextId,
    fun id => (hlast.running? id).trans (hfirst.running? id)⟩

/-- Stages with the same flags have the same sprites. -/
theorem SameRuns.contains {before after : Stage α} (hsame : before.SameRuns after) (id : Nat) :
    after.store.contains id = before.store.contains id := by
  rw [Bool.eq_iff_iff, Store.contains_iff_running?, Store.contains_iff_running?, hsame.running?]

variable [Scalar α]

/-- The trades of Hero Mode leave the flags alone. -/
theorem sameRuns_react (stage : Stage α) : stage.SameRuns stage.react :=
  ⟨rfl, HeroMode.nextId_settle stage.hero stage.store,
    fun id => HeroMode.map_get?_settle (fun _ _ _ _ => rfl) stage.hero stage.store id⟩

theorem sameRuns_switchHero (enabled : Bool) (stage : Stage α) :
    stage.SameRuns (stage.switchHero enabled) := by
  have hreact := sameRuns_react { stage with hero := stage.hero.switch enabled }
  cases enabled with
  | true => exact ⟨hreact.config, hreact.nextId, hreact.running?⟩
  | false => exact ⟨rfl, rfl, fun _ => rfl⟩

/-- Committing a change leaves the registry alone. -/
@[simp] theorem registry_commit (id : Nat) (change : Sprite α → Sprite α) (stage : Stage α) :
    (stage.commit id change).registry = stage.registry := by
  unfold commit
  split <;> rfl

@[simp] theorem config_commit (id : Nat) (change : Sprite α → Sprite α) (stage : Stage α) :
    (stage.commit id change).config = stage.config := by
  unfold commit
  split <;> rfl

@[simp] theorem nextId_commit (id : Nat) (change : Sprite α → Sprite α) (stage : Stage α) :
    (stage.commit id change).store.nextId = stage.store.nextId := by
  unfold commit
  split
  · exact (sameRuns_react _).nextId
  · rfl

/-- Committing a change brings no sprite in and takes none out. -/
@[simp] theorem contains_commit (id other : Nat) (change : Sprite α → Sprite α) (stage : Stage α) :
    (stage.commit id change).store.contains other = stage.store.contains other := by
  unfold commit
  split
  · rw [(sameRuns_react _).contains]
    exact stage.store.contains_update id other change
  · rfl

/-- What a change of a sprite does to a reading that Hero Mode leaves alone. -/
theorem map_get?_commit {β : Type} {view : Sprite α → β} (hview : Store.Untraded view) (id other : Nat)
    (change : Sprite α → Sprite α) (stage : Stage α) :
    ((stage.commit id change).store.get? other).map view =
      if other = id then (stage.store.get? id).map fun sprite => view (change sprite)
      else (stage.store.get? other).map view := by
  unfold commit
  split
  case isTrue =>
    have hsettle := HeroMode.map_get?_settle hview stage.hero (stage.store.update id change) other
    refine hsettle.trans ?_
    rw [Store.get?_update]
    split
    case isTrue =>
      rw [Option.map_map]
      congr 1
      funext sprite
      exact hview (change sprite) id (change sprite).speech (change sprite).program
    case isFalse => rfl
  case isFalse hunknown =>
    split
    case isTrue hid =>
      rw [hid, Store.get?_of_unknown hunknown]
      rfl
    case isFalse => rfl

/-- A change that keeps such a reading leaves it as it is on all sprites. -/
theorem map_get?_commit_of_kept {β : Type} {view : Sprite α → β} (hview : Store.Untraded view)
    {change : Sprite α → Sprite α} (hkept : ∀ sprite, view (change sprite) = view sprite)
    (id other : Nat) (stage : Stage α) :
    ((stage.commit id change).store.get? other).map view = (stage.store.get? other).map view := by
  rw [map_get?_commit hview]
  simp only [hkept]
  split
  case isTrue hid => rw [hid]
  case isFalse => rfl

/-- Committing a change shows in the flag of its sprite and of no other. -/
theorem running?_commit (id other : Nat) (change : Sprite α → Sprite α) (stage : Stage α) :
    (stage.commit id change).store.running? other =
      if other = id then (stage.store.get? id).map fun sprite => (change sprite).isRunning
      else stage.store.running? other :=
  map_get?_commit (fun _ _ _ _ => rfl) id other change stage

/-- A change that keeps the flag of its sprite keeps all flags. -/
theorem sameRuns_commit {id : Nat} {change : Sprite α → Sprite α} {stage : Stage α}
    (hkept : ∀ sprite, stage.store.get? id = some sprite →
      (change sprite).isRunning = sprite.isRunning) : stage.SameRuns (stage.commit id change) := by
  refine ⟨config_commit id change stage, nextId_commit id change stage, ?_⟩
  intro other
  rw [running?_commit]
  split
  case isTrue hid =>
    rw [hid, Store.running?]
    cases hsprite : stage.store.get? id with
    | none => rfl
    | some sprite => rw [Option.map_some, Option.map_some, hkept sprite hsprite]
  case isFalse => rfl

end Stage

/-- The sprite that an effect writes back. -/
def Effect.sprite? : Effect α → Option (Sprite α)
  | .update sprite => some sprite
  | .speakFor sprite _ => some sprite
  | _ => none

/-- The block puts up a bubble. -/
def Block.speaks (b : Block) : Bool :=
  match b.kind? with
  | some .say | some .think | some .sayForSeconds | some .thinkForSeconds => true
  | _ => false

/-- What a block leaves alone of a sprite that it writes back. It may end the glide that the sprite shows,
    but it shows no new one. -/
structure Block.Leaves (b : Block) (sprite next : Sprite α) : Prop where
  id : next.id = sprite.id
  kind : next.kind = sprite.kind
  isRunning : next.isRunning = sprite.isRunning
  program : next.program = sprite.program
  speech : b.speaks = false → next.speech = sprite.speech
  animation : next.animation = sprite.animation ∨ next.animation = none

/-- What a block writes leaves the flag of its sprite alone. -/
theorem Block.leaves_of_dispatch [Scalar α] {b : Block} {sprite next : Sprite α} {context : Context α}
    (hnext : (b.dispatch sprite context).sprite? = some next) : b.Leaves sprite next := by
  unfold dispatch at hnext
  cases hkind : b.kind? with
  | none => simp [hkind, Effect.sprite?] at hnext
  | some kind =>
    cases kind <;> simp only [hkind, Effect.sprite?, Option.some.injEq, reduceCtorEq] at hnext
    case pointTowards =>
      by_cases htarget : b.text "target" = mousePointer
      · rw [if_pos htarget] at hnext
        cases hnext
        exact ⟨rfl, rfl, rfl, rfl, fun _ => rfl, Or.inr rfl⟩
      · rw [if_neg htarget] at hnext
        cases hnext
    all_goals
      subst hnext
      refine ⟨rfl, rfl, rfl, rfl, fun hquiet => ?_, Or.inl rfl⟩
      first
        | rfl
        | simp [speaks, hkind] at hquiet

namespace Stage

variable [Scalar α]

/-- Drawing a random place leaves the flags alone. -/
theorem sameRuns_drawFor (b : Block) (stage : Stage α) : stage.SameRuns (stage.drawFor b).2 := by
  unfold drawFor
  split
  · exact ⟨rfl, rfl, fun _ => rfl⟩
  · exact .refl stage

theorem registry_drawFor (b : Block) (stage : Stage α) :
    (stage.drawFor b).2.registry = stage.registry := by
  unfold drawFor
  split <;> rfl

theorem store_drawFor (b : Block) (stage : Stage α) : (stage.drawFor b).2.store = stage.store := by
  unfold drawFor
  split <;> rfl

/-- A block of a sprite that is not there stops the chain. -/
theorem execute_of_unknown {id : Nat} {stage : Stage α} (hunknown : stage.store.get? id = none)
    (b : Block) : stage.execute id b = ((stage.drawFor b).2, .stop) := by
  simp only [execute, store_drawFor, hunknown]

/-- A chain that signs off is counted off in the registry. -/
theorem registry_signOff (id : Nat) (token : Token) (stage : Stage α) :
    (stage.signOff id token).registry = stage.registry.finishChain id token := by
  unfold signOff
  dsimp only
  split
  · rw [registry_commit]
  · rfl

theorem config_signOff (id : Nat) (token : Token) (stage : Stage α) :
    (stage.signOff id token).config = stage.config := by
  unfold signOff
  dsimp only
  split
  · rw [config_commit]
  · rfl

end Stage

end SpriteStage
