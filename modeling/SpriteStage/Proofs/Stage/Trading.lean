import SpriteStage.Engine.Session
import SpriteStage.Proofs.Store.Layout

namespace SpriteStage

variable {α : Type}

namespace Store

/-- Trades leave the ids in their places. -/
@[simp] theorem ids_trade (pairs : List Pair) (store : Store α) : (store.trade pairs).ids = store.ids := by
  induction pairs generalizing store with
  | nil => rfl
  | cons pair rest ih => rw [trade_cons, ih, ids_swapPayload]

/-- Trades keep a store well-formed. -/
theorem WellFormed.trade {store : Store α} (h : store.WellFormed) (pairs : List Pair) :
    (store.trade pairs).WellFormed := by
  induction pairs generalizing store with
  | nil => exact h
  | cons pair rest ih => exact ih (h.swapPayload pair)

/-- Trades leave every sprite where it stands. -/
theorem WellFormed.layout_trade [Scalar α] {store : Store α} (h : store.WellFormed)
    (pairs : List Pair) : (store.trade pairs).layout = store.layout := by
  induction pairs generalizing store with
  | nil => rfl
  | cons pair rest ih => rw [trade_cons, ih (h.swapPayload pair), h.layout_swapPayload]

/-- Trades between other sprites leave a sprite and its version alone. -/
theorem slot?_trade {pairs : List Pair} {id : Nat}
    (hothers : ∀ pair ∈ pairs, pair.involves id = false) (store : Store α) :
    (store.trade pairs).slot? id = store.slot? id := by
  induction pairs generalizing store with
  | nil => rfl
  | cons pair rest ih =>
    have hpair := hothers pair List.mem_cons_self
    rw [Pair.involves, Bool.or_eq_false_iff, decide_eq_false_iff_not, decide_eq_false_iff_not] at hpair
    have hhere : (store.swapPayload pair).slot? id = store.slot? id := by
      unfold swapPayload
      split
      · rw [slot?_update, if_neg (Ne.symm hpair.2), slot?_update, if_neg (Ne.symm hpair.1)]
      · rfl
    rw [trade_cons, ih fun other hother => hothers other (List.mem_cons_of_mem _ hother), hhere]

/-- Trades leave alone the sprites that do not take part. -/
theorem get?_trade {pairs : List Pair} {id : Nat} (hothers : ∀ pair ∈ pairs, pair.involves id = false)
    (store : Store α) : (store.trade pairs).get? id = store.get? id := by
  rw [get?, slot?_trade hothers, get?]

end Store

variable [Scalar α]

namespace HeroMode

/-- The mode has noted the pairs that overlap in a store, and none while it is off. -/
def Knows (mode : HeroMode) (store : Store α) : Prop :=
  mode.colliding = if mode.enabled then store.overlappingPairs else []

/-- What Hero Mode knows depends on where the sprites stand alone. -/
theorem Knows.congr {mode : HeroMode} {store other : Store α} (h : mode.Knows store)
    (hlayout : other.layout = store.layout) : mode.Knows other := by
  unfold Knows
  rw [Store.overlappingPairs_congr hlayout]
  exact h

/-- What is new to a mode that knew an earlier store. -/
theorem Knows.newContacts_eq {mode : HeroMode} {before : Store α} (h : mode.Knows before)
    (store : Store α) : mode.newContacts store =
      if mode.enabled then
        store.overlappingPairs.filter fun pair => !before.overlappingPairs.contains pair
      else [] := by
  unfold newContacts
  split
  case isTrue henabled => rw [h, if_pos henabled]
  case isFalse => rfl

/-- Where no pair has come to overlap there are no new contacts. -/
theorem Knows.newContacts_of_subset {mode : HeroMode} {before store : Store α} (h : mode.Knows before)
    (hsubset : store.overlappingPairs ⊆ before.overlappingPairs) : mode.newContacts store = [] := by
  rw [h.newContacts_eq]
  split
  case isTrue =>
    apply List.filter_eq_nil_iff.2
    intro pair hpair
    simpa using hsubset hpair
  case isFalse => rfl

/-- Looking at what it knows already changes nothing for Hero Mode. -/
theorem Knows.observe {mode : HeroMode} {store : Store α} (h : mode.Knows store) :
    mode.observe store = mode := by
  unfold HeroMode.observe
  split
  case isTrue henabled =>
    rw [Knows, if_pos henabled] at h
    rw [← h]
  case isFalse => rfl

/-- Hero Mode that is off knows no pairs. -/
theorem Knows.colliding_of_off {mode : HeroMode} {store : Store α} (h : mode.Knows store)
    (hoff : mode.enabled = false) : mode.colliding = [] := by
  rw [h, hoff]
  rfl

/-- Having looked at a store, the mode knows it. -/
theorem knows_observe {mode : HeroMode} (hoff : mode.enabled = false → mode.colliding = [])
    (store : Store α) : (mode.observe store).Knows store := by
  unfold observe
  split
  case isTrue henabled => rw [Knows, if_pos henabled]
  case isFalse hnot =>
    rw [Knows, if_neg hnot]
    exact hoff (by simpa using hnot)

end HeroMode

namespace Stage

/-- The stage with another state of Hero Mode. -/
def withHero (hero : HeroMode) (stage : Stage α) : Stage α :=
  { stage with hero := hero }

/-- Hero Mode comes in again in the state that it had, and reacts to the layout that it finds. -/
def catchUp (hero : HeroMode) (stage : Stage α) : Stage α :=
  (stage.withHero hero).react

/-- Reacting trades payloads, and no sprite moves. -/
theorem wellFormed_react {stage : Stage α} (h : stage.store.WellFormed) :
    stage.react.store.WellFormed :=
  h.trade _

/-- Committing a change keeps the store well-formed. -/
theorem wellFormed_commit {stage : Stage α} (h : stage.store.WellFormed) (id : Nat)
    (change : Sprite α → Sprite α) : (stage.commit id change).store.WellFormed := by
  have hupdated : ({ stage with store := stage.store.update id change } : Stage α).store.WellFormed :=
    h.update id change
  unfold commit
  split
  · exact wellFormed_react hupdated
  · exact h

/-- The ids are in order, and Hero Mode knows the contacts. -/
structure Tracked (stage : Stage α) : Prop where
  wellFormed : stage.store.WellFormed
  knows : stage.hero.Knows stage.store

/-- With Hero Mode off, committing a change is an update of the store. -/
theorem commit_eq_update (id : Nat) (change : Sprite α → Sprite α) (stage : Stage α) :
    (stage.withHero .off).commit id change =
      { stage.withHero .off with store := stage.store.update id change } := by
  unfold commit
  split
  case isTrue => rfl
  case isFalse hunknown =>
    have hsame := Store.update_of_unknown hunknown change
    rw [show stage.store.update id change = stage.store from hsame]
    rfl

/-- Committing a change leaves the undo log alone. -/
@[simp] theorem undo_commit (id : Nat) (change : Sprite α → Sprite α) (stage : Stage α) :
    (stage.commit id change).undo = stage.undo := by
  unfold commit
  split <;> rfl

theorem undo_switchHero (enabled : Bool) (stage : Stage α) :
    (stage.switchHero enabled).undo = stage.undo := by
  cases enabled <;> rfl

omit [Scalar α] in
/-- What an undo undoes is the sprite of the newest entry, if it is there. -/
theorem undone?_of_pop? {stage : Stage α} {entry : UndoEntry α} {rest : UndoLog α}
    (hpop : stage.undo.pop? = some (entry, rest)) :
    stage.undone? = if stage.store.contains entry.id then some entry.id else none := by
  rw [undone?, hpop]
  rfl

/-- Apart from Hero Mode, undoing puts one sprite back and stops its chains. -/
theorem undoLast_withHero_off {stage : Stage α} {entry : UndoEntry α} {rest : UndoLog α}
    (hpop : stage.undo.pop? = some (entry, rest)) :
    (stage.withHero .off).undoLast =
      { stage.withHero .off with
        undo := rest
        registry := stage.registry.cancelChains entry.id
        store := (stage.store.update entry.id Sprite.idle).update entry.id fun _ => entry.prior.idle } := by
  have hlog : (stage.withHero .off).undo.pop? = some (entry, rest) := hpop
  rw [undoLast, hlog]
  exact commit_eq_update entry.id _ (({ stage with undo := rest } : Stage α).cancelChains entry.id)

namespace Tracked

/-- On a new stage Hero Mode knows that nothing overlaps. -/
theorem new (config : Config) (entropy : Nat) : (Stage.new config entropy : Stage α).Tracked :=
  ⟨.empty, rfl⟩

/-- What moves no sprite leaves Hero Mode with what it knows. -/
theorem of_layout {before after : Stage α} (h : before.Tracked) (hstore : after.store.WellFormed)
    (hhero : after.hero = before.hero) (hlayout : after.store.layout = before.store.layout) :
    after.Tracked := by
  refine ⟨hstore, ?_⟩
  rw [hhero]
  exact h.knows.congr hlayout

/-- Where Hero Mode knows the present contacts it has nothing to react to. -/
theorem react {stage : Stage α} (h : stage.Tracked) : stage.react = stage := by
  unfold Stage.react HeroMode.settle
  rw [h.knows.newContacts_of_subset (List.Subset.refl _), h.knows.observe]
  rfl

/-- A stage that was left in its layout has nothing to catch up with. -/
theorem catchUp {stage : Stage α} (h : stage.Tracked) :
    (stage.withHero .off).catchUp stage.hero = stage :=
  h.react

/-- Committing a change is committing it with Hero Mode off, and then Hero Mode catches up. -/
theorem commit {stage : Stage α} (h : stage.Tracked) (id : Nat) (change : Sprite α → Sprite α) :
    stage.commit id change = ((stage.withHero .off).commit id change).catchUp stage.hero := by
  rw [commit_eq_update]
  unfold Stage.commit
  split
  case isTrue => rfl
  case isFalse hunknown =>
    rw [Store.update_of_unknown hunknown]
    exact h.react.symm

/-- A change that leaves a sprite in its box has no other effect. -/
theorem commit_of_box {stage : Stage α} (h : stage.Tracked) (id : Nat) (change : Sprite α → Sprite α)
    (hkept : ∀ sprite, stage.store.get? id = some sprite → (change sprite).box = sprite.box) :
    stage.commit id change = { stage with store := stage.store.update id change } := by
  have hafter : ({ stage with store := stage.store.update id change } : Stage α).Tracked :=
    h.of_layout (h.wellFormed.update id change) rfl (h.wellFormed.layout_update hkept)
  rw [h.commit, commit_eq_update]
  exact hafter.react

/-- Cancelling chains moves no sprite. -/
theorem cancelChains {stage : Stage α} (h : stage.Tracked) (id : Nat) :
    (stage.cancelChains id).Tracked :=
  h.of_layout (h.wellFormed.update _ _) rfl (h.wellFormed.layout_update fun _ _ => rfl)

/-- Deleting a sprite is deleting it with Hero Mode off, and then Hero Mode catches up. -/
theorem delete {stage : Stage α} (h : stage.Tracked) (id : Nat) :
    stage.delete id = ((stage.withHero .off).delete id).catchUp stage.hero := by
  unfold Stage.delete
  have hpairs := h.wellFormed.overlappingPairs_remove id
  have hnone : stage.hero.newContacts (stage.store.remove id) = [] := by
    apply h.knows.newContacts_of_subset
    rw [hpairs]
    exact List.filter_subset_self _
  have hforget : stage.hero.forget id = stage.hero.observe (stage.store.remove id) := by
    have hknows := h.knows
    unfold HeroMode.forget HeroMode.observe
    rw [hpairs]
    split
    case isTrue henabled =>
      rw [HeroMode.Knows, if_pos henabled] at hknows
      rw [hknows]
    case isFalse hoff =>
      rw [HeroMode.Knows, if_neg hoff] at hknows
      rw [hknows, List.filter_nil, ← hknows]
  split
  case isTrue hknown =>
    rw [if_pos (show (stage.withHero .off).store.contains id = true from hknown)]
    unfold Stage.catchUp Stage.react HeroMode.settle
    change _ = { stage with
      store := (stage.store.remove id).trade (stage.hero.newContacts (stage.store.remove id))
      hero := stage.hero.observe (stage.store.remove id)
      undo := stage.undo.forget id
      registry := stage.registry.cancelSprite id }
    rw [hnone, hforget]
    rfl
  case isFalse hunknown =>
    rw [if_neg (show ¬ (stage.withHero .off).store.contains id = true from hunknown)]
    exact h.catchUp.symm

/-- An undo is the undo with Hero Mode off, and then Hero Mode catches up. -/
theorem undoLast {stage : Stage α} (h : stage.Tracked) :
    stage.undoLast = ((stage.withHero .off).undoLast).catchUp stage.hero := by
  cases hpop : stage.undo.pop? with
  | none =>
    have hplain : (stage.withHero .off).undo.pop? = none := hpop
    rw [Stage.undoLast, Stage.undoLast, hpop, hplain]
    exact h.catchUp.symm
  | some popped =>
    obtain ⟨entry, rest⟩ := popped
    have hplain : (stage.withHero .off).undo.pop? = some (entry, rest) := hpop
    rw [Stage.undoLast, Stage.undoLast, hpop, hplain]
    have hrest : ({ stage with undo := rest } : Stage α).Tracked := ⟨h.wellFormed, h.knows⟩
    exact (hrest.cancelChains entry.id).commit entry.id _

end Tracked

end Stage

end SpriteStage
