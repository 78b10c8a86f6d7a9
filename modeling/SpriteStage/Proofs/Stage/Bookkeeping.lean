import SpriteStage.Proofs.Stage.Runs
import SpriteStage.Proofs.TaskRegistry.Tokens

namespace SpriteStage

variable {α : Type}

/-- A new sprite does not run. -/
theorem Store.running?_add [Scalar α] (kind : SpriteKind) (store : Store α) (other : Nat) :
    (store.add kind).running? other =
      (store.running? other).or (if store.nextId = other then some false else none) := by
  unfold running?
  rw [get?_add]
  cases store.get? other with
  | some sprite => rfl
  | none => split <;> rfl

/-- A sprite that was removed has no flag. -/
theorem Store.running?_remove (store : Store α) (id other : Nat) :
    (store.remove id).running? other = if other = id then none else store.running? other := by
  unfold running?
  rw [get?_remove]
  split <;> rfl

/-- Sprites that were reset do not run. -/
theorem Store.running?_foldl_reset [Scalar α] (ids : List Nat) (store : Store α) (other : Nat) :
    (ids.foldl (fun store id => store.update id Sprite.reset) store).running? other =
      if other ∈ ids then (store.running? other).map fun _ => false else store.running? other := by
  induction ids generalizing store with
  | nil => rfl
  | cons id rest ih =>
    rw [List.foldl_cons, ih, running?_update]
    by_cases hid : other = id
    · subst hid
      unfold running?
      cases store.get? other <;> simp [Sprite.reset, Sprite.fresh]
    · simp [hid]

theorem Store.nextId_foldl_reset [Scalar α] (ids : List Nat) (store : Store α) :
    (ids.foldl (fun store id => store.update id Sprite.reset) store).nextId = store.nextId := by
  induction ids generalizing store with
  | nil => rfl
  | cons id rest ih => exact ih (store.update id Sprite.reset)

namespace Stage

/-- The stage agrees with its registry: work is registered for sprites that are there, and a sprite
    is flagged as running exactly while chains of it are counted. -/
structure Sound (stage : Stage α) : Prop where
  id_lt : ∀ id, stage.store.contains id = true → id < stage.store.nextId
  wellFormed : stage.registry.WellFormed
  known : ∀ id, stage.registry.work? id ≠ none → stage.store.contains id = true
  running : ∀ id flag, stage.store.running? id = some flag →
    (flag = true ↔ 0 < stage.registry.active id)

namespace Sound

/-- A new stage is sound, with nothing on it and nothing registered. -/
theorem new [Scalar α] (config : Config) (entropy : Nat) : (Stage.new config entropy : Stage α).Sound :=
  ⟨nofun, .empty, fun _ hwork => absurd rfl hwork, nofun⟩

/-- A change that touches neither flags nor registry keeps a stage sound. -/
theorem of_sameRuns {before after : Stage α} (h : before.Sound) (hsame : before.SameRuns after)
    (hregistry : after.registry = before.registry) : after.Sound := by
  refine ⟨?_, ?_, ?_, ?_⟩
  · intro id hid
    rw [hsame.contains] at hid
    rw [hsame.nextId]
    exact h.id_lt id hid
  · rw [hregistry]
    exact h.wellFormed
  · intro id hwork
    rw [hregistry] at hwork
    rw [hsame.contains]
    exact h.known id hwork
  · intro id flag hflag
    rw [hsame.running?] at hflag
    rw [hregistry]
    exact h.running id flag hflag

/-- Registering a sprite that is there keeps a stage sound. -/
theorem ensure {stage : Stage α} (h : stage.Sound) {id : Nat}
    (hknown : stage.store.contains id = true) :
    ({ stage with registry := stage.registry.ensure id } : Stage α).Sound := by
  refine ⟨h.id_lt, h.wellFormed.ensure id, ?_, ?_⟩
  · intro other hwork
    rw [TaskRegistry.work?_ensure] at hwork
    split at hwork
    case isTrue hid => rwa [hid]
    case isFalse => exact h.known other hwork
  · intro other flag hflag
    rw [TaskRegistry.active_ensure]
    exact h.running other flag hflag

/-- Cancelling the chains of a sprite takes its flag and its count away together. -/
theorem cancelChains {stage : Stage α} (h : stage.Sound) (id : Nat) :
    (stage.cancelChains id).Sound := by
  refine ⟨?_, h.wellFormed.cancelChains id, ?_, ?_⟩
  · intro other hother
    exact h.id_lt other (by rwa [← stage.store.contains_update id other Sprite.idle])
  · intro other hwork
    rw [Stage.cancelChains, Store.contains_update]
    apply h.known
    intro hnone
    rw [Stage.cancelChains, TaskRegistry.work?_cancelChains] at hwork
    split at hwork
    case isTrue hid => simp [← hid, hnone] at hwork
    case isFalse => exact hwork hnone
  · intro other flag hflag
    rw [Stage.cancelChains, Store.running?_update] at hflag
    split at hflag
    case isTrue hid =>
      obtain ⟨sprite, _, rfl⟩ := Option.map_eq_some_iff.1 hflag
      rw [Stage.cancelChains, hid, TaskRegistry.active_cancelChains_self]
      simp [Sprite.idle]
    case isFalse hid =>
      rw [Stage.cancelChains, TaskRegistry.active_cancelChains_of_ne _ hid]
      exact h.running other flag hflag

/-- Deleting a sprite takes it out of the store and out of the registry together. -/
theorem delete {stage : Stage α} (h : stage.Sound) (id : Nat) : (stage.delete id).Sound := by
  unfold Stage.delete
  split
  case isFalse => exact h
  case isTrue =>
    refine ⟨?_, h.wellFormed.cancelSprite id, ?_, ?_⟩
    · intro other hother
      rw [Store.contains_iff_running?, Store.running?_remove] at hother
      split at hother
      case isTrue => exact absurd rfl hother
      case isFalse =>
        apply h.id_lt
        rwa [Store.contains_iff_running?]
    · intro other hwork
      rw [TaskRegistry.work?_cancelSprite] at hwork
      split at hwork
      case isTrue => exact absurd rfl hwork
      case isFalse hid =>
        rw [Store.contains_iff_running?, Store.running?_remove, if_neg hid,
          ← Store.contains_iff_running?]
        exact h.known other hwork
    · intro other flag hflag
      rw [Store.running?_remove] at hflag
      split at hflag
      case isTrue => cases hflag
      case isFalse hid =>
        rw [TaskRegistry.active_cancelSprite_of_ne _ hid]
        exact h.running other flag hflag

variable [Scalar α]

/-- A new sprite does not run, and nothing is registered for it. -/
theorem add {stage : Stage α} (h : stage.Sound) (kind : SpriteKind) : (stage.add kind).Sound := by
  apply of_sameRuns _ (sameRuns_react _) rfl
  have hfresh : stage.registry.work? stage.store.nextId = none := by
    by_contra hwork
    have hlt := h.id_lt _ (h.known _ hwork)
    omega
  have hold (other : Nat) (hne : stage.store.nextId ≠ other) :
      (stage.store.add kind).running? other = stage.store.running? other := by
    rw [Store.running?_add, if_neg hne, Option.or_none]
  refine ⟨?_, h.wellFormed, ?_, ?_⟩
  · intro other hother
    change other < stage.store.nextId + 1
    by_cases hid : stage.store.nextId = other
    · omega
    · rw [Store.contains_iff_running?, hold other hid, ← Store.contains_iff_running?] at hother
      exact Nat.lt_succ_of_lt (h.id_lt other hother)
  · intro other hwork
    have hid : stage.store.nextId ≠ other := fun hid => hwork (hid ▸ hfresh)
    rw [Store.contains_iff_running?, hold other hid, ← Store.contains_iff_running?]
    exact h.known other hwork
  · intro other flag hflag
    by_cases hid : stage.store.nextId = other
    · subst hid
      rw [TaskRegistry.active_of_none hfresh]
      have hnone : stage.store.running? stage.store.nextId = none := by
        by_contra hthere
        have hlt := h.id_lt _ ((Store.contains_iff_running? _ _).2 hthere)
        omega
      rw [Store.running?_add, hnone, if_pos rfl, Option.none_or, Option.some.injEq] at hflag
      simp [← hflag]
    · rw [hold other hid] at hflag
      exact h.running other flag hflag

/-- Rewriting the entry of one sprite together with its flag. -/
theorem rewrite {stage : Stage α} (h : stage.Sound) {id : Nat} (hknown : stage.store.contains id = true)
    {registry : TaskRegistry} (hregistry : registry.WellFormed)
    (hothers : ∀ other, other ≠ id → registry.work? other = stage.registry.work? other)
    {change : Sprite α → Sprite α}
    (hflag : ∀ sprite, (change sprite).isRunning = true ↔ 0 < registry.active id) :
    (({ stage with registry := registry } : Stage α).commit id change).Sound := by
  refine ⟨?_, ?_, ?_, ?_⟩
  · intro other hother
    rw [contains_commit] at hother
    rw [nextId_commit]
    exact h.id_lt other hother
  · rw [registry_commit]
    exact hregistry
  · intro other hwork
    rw [registry_commit] at hwork
    rw [contains_commit]
    by_cases hid : other = id
    · rwa [hid]
    · exact h.known other (by rwa [← hothers other hid])
  · intro other flag hother
    rw [running?_commit] at hother
    rw [registry_commit]
    split at hother
    case isTrue hid =>
      obtain ⟨sprite, _, rfl⟩ := Option.map_eq_some_iff.1 hother
      rw [hid]
      exact hflag sprite
    case isFalse hid =>
      rw [TaskRegistry.active, hothers other hid, ← TaskRegistry.active]
      exact h.running other flag hother

/-- Starting a chain sets the flag and raises the count together. -/
theorem startChain {stage : Stage α} (h : stage.Sound) {id : Nat}
    (hknown : stage.store.contains id = true) :
    (({ stage with registry := stage.registry.startChain id } : Stage α).commit id
      fun sprite => { sprite with isRunning := true }).Sound := by
  apply h.rewrite hknown (h.wellFormed.startChain id)
  · intro other hother
    rw [TaskRegistry.work?_startChain, if_neg hother]
  · intro sprite
    rw [TaskRegistry.active_startChain, if_pos rfl]
    simp

/-- Signing a chain off that is under way. The flag falls with the last chain of the sprite. -/
theorem signOff {stage : Stage α} (h : stage.Sound) {token : Token}
    (hlive : stage.registry.isCancelled token = false) : (stage.signOff token.sprite token).Sound := by
  obtain ⟨work, hwork, _⟩ := (stage.registry.isCancelled_eq_false_iff token).1 hlive
  have hknown : stage.store.contains token.sprite = true := h.known _ (by rw [hwork]; nofun)
  have hwellFormed := h.wellFormed.finishChain token.sprite hlive
  have hwork? (other : Nat) (hother : other ≠ token.sprite) :
      (stage.registry.finishChain token.sprite token).work? other = stage.registry.work? other := by
    rw [TaskRegistry.work?_finishChain hlive, if_neg hother]
  have hactive := TaskRegistry.active_finishChain hlive token.sprite token.sprite
  rw [if_pos rfl] at hactive
  unfold Stage.signOff TaskRegistry.isLast
  simp only [hlive, hwork, Bool.not_false, Option.isSome_some, Bool.true_and, decide_eq_true_eq]
  split
  case isTrue hlast =>
    apply h.rewrite hknown hwellFormed hwork?
    intro sprite
    have hzero : stage.registry.active token.sprite - 1 = 0 := by omega
    rw [hactive, hzero]
    simp
  case isFalse hlast =>
    refine ⟨h.id_lt, hwellFormed, ?_, ?_⟩
    · intro other hother
      by_cases hid : other = token.sprite
      · rwa [hid]
      · exact h.known other (by rwa [← hwork? other hid])
    · intro other flag hflag
      rw [h.running other flag hflag]
      by_cases hid : other = token.sprite
      · subst hid
        rw [hactive]
        omega
      · rw [TaskRegistry.active_finishChain hlive, if_neg hid]

/-- An undo puts a sprite at rest whose chains it cancels. -/
theorem undoLast {stage : Stage α} (h : stage.Sound) : stage.undoLast.Sound := by
  unfold Stage.undoLast
  split
  case h_1 => exact h
  case h_2 entry rest _ =>
    have hpopped : ({ stage with undo := rest } : Stage α).Sound :=
      h.of_sameRuns ⟨rfl, rfl, fun _ => rfl⟩ rfl
    apply (hpopped.cancelChains entry.id).of_sameRuns _ (registry_commit _ _ _)
    apply sameRuns_commit
    intro sprite hsprite
    rw [Stage.cancelChains, Store.get?_update, if_pos rfl] at hsprite
    obtain ⟨old, _, rfl⟩ := Option.map_eq_some_iff.1 hsprite
    rfl

/-- A reset puts all sprites at rest and empties the registry. -/
theorem reset {stage : Stage α} (h : stage.Sound) : stage.reset.Sound := by
  apply of_sameRuns _ (sameRuns_react _) rfl
  have hcontains (id : Nat) :
      (stage.store.ids.foldl (fun store id => store.update id Sprite.reset) stage.store).contains id =
        true ↔ stage.store.contains id = true := by
    rw [Store.contains_iff_running?, Store.running?_foldl_reset, Store.contains_iff_running?]
    split
    case isTrue => simp
    case isFalse => rfl
  refine ⟨?_, .cancelAll _, fun _ hwork => absurd rfl hwork, ?_⟩
  · intro id hid
    rw [Store.nextId_foldl_reset]
    exact h.id_lt id ((hcontains id).1 hid)
  · intro id flag hflag
    have hid : id ∈ stage.store.ids := by
      rw [Store.mem_ids_iff_contains, ← hcontains, Store.contains_iff_running?]
      exact Option.ne_none_iff_exists'.2 ⟨flag, hflag⟩
    rw [Store.running?_foldl_reset, if_pos hid] at hflag
    obtain ⟨_, _, rfl⟩ := Option.map_eq_some_iff.1 hflag
    rw [TaskRegistry.active_of_none rfl]
    simp

end Sound

end Stage

end SpriteStage
