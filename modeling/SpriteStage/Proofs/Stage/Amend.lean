import SpriteStage.Proofs.Stage.Trading
import SpriteStage.Proofs.TaskRegistry.Tokens

namespace SpriteStage

variable {α : Type}

/-- A change of a sprite, if there is one, and whether one of its chains is counted off. -/
structure Amendment (α : Type) where
  change : Option (Sprite α → Sprite α)
  countsOff : Bool

/-- The slots with an id see the updates under that id and no others. -/
theorem Store.filter_update (store : Store α) (id other : Nat) (change : Sprite α → Sprite α) :
    (store.update id change).slots.filter (·.id = other) =
      if other = id then (store.slots.filter (·.id = id)).map fun slot =>
        ⟨id, slot.version + 1, { change slot.sprite with id := id }⟩
      else store.slots.filter (·.id = other) :=
  Keyed.filter_change Slot.id
    (fun slot => ⟨id, slot.version + 1, { change slot.sprite with id := id }⟩) (fun _ _ => rfl)
    store.slots other

namespace TaskRegistry

/-- One running chain of a sprite less. -/
def countOff (id : Nat) (r : TaskRegistry) : TaskRegistry :=
  r.change id fun work => { work with active := work.active - 1 }

/-- The entries of a sprite see the chains that are counted off there and no others. -/
theorem filter_countOff (r : TaskRegistry) (id other : Nat) :
    (r.countOff id).works.filter (·.id = other) =
      if other = id then (r.works.filter (·.id = id)).map fun work =>
        { work with active := work.active - 1 }
      else r.works.filter (·.id = other) :=
  Keyed.filter_change SpriteWork.id (fun work => { work with active := work.active - 1 })
    (fun work hid => (hid : work.id = id)) r.works other

/-- Counting a chain off leaves the ids of the entries alone. -/
theorem ids_countOff (r : TaskRegistry) (id : Nat) :
    (r.countOff id).works.map (·.id) = r.works.map (·.id) := by
  unfold countOff change
  rw [List.map_map]
  apply List.map_congr_left
  intro work _
  rw [Function.comp_apply]
  split <;> rfl

end TaskRegistry

namespace Stage

def amend (id : Nat) (a : Amendment α) (stage : Stage α) : Stage α :=
  { stage with
    store := a.change.elim stage.store fun change => stage.store.update id change
    registry := if a.countsOff then stage.registry.countOff id else stage.registry }

/-- Two stages are the same to a sprite. -/
structure SameFor (id : Nat) (stage other : Stage α) : Prop where
  config : other.config = stage.config
  hero : other.hero = stage.hero
  pointer : other.pointer = stage.pointer
  slots : other.store.slots.filter (·.id = id) = stage.store.slots.filter (·.id = id)
  works : other.registry.works.filter (·.id = id) = stage.registry.works.filter (·.id = id)

/-- Two stages have the same sprites and the same entries in the registry, and what no sprite owns is the
    same on both. -/
structure SameFrame (stage other : Stage α) : Prop where
  config : other.config = stage.config
  undo : other.undo = stage.undo
  hero : other.hero = stage.hero
  pointer : other.pointer = stage.pointer
  random : other.random = stage.random
  ids : other.store.ids = stage.store.ids
  nextId : other.store.nextId = stage.store.nextId
  selected : other.store.selected = stage.store.selected
  registered : other.registry.works.map (·.id) = stage.registry.works.map (·.id)
  nextSerial : other.registry.nextSerial = stage.registry.nextSerial

namespace SameFor

variable {id : Nat} {stage other : Stage α}

theorem refl (id : Nat) (stage : Stage α) : stage.SameFor id stage :=
  ⟨rfl, rfl, rfl, rfl, rfl⟩

theorem symm (h : stage.SameFor id other) : other.SameFor id stage :=
  ⟨h.config.symm, h.hero.symm, h.pointer.symm, h.slots.symm, h.works.symm⟩

theorem trans {last : Stage α} (hfirst : stage.SameFor id other) (hlast : other.SameFor id last) :
    stage.SameFor id last :=
  ⟨hlast.config.trans hfirst.config, hlast.hero.trans hfirst.hero, hlast.pointer.trans hfirst.pointer,
    hlast.slots.trans hfirst.slots, hlast.works.trans hfirst.works⟩

/-- What is the same for a sprite has the same slot for it. -/
theorem slot? (h : stage.SameFor id other) : other.store.slot? id = stage.store.slot? id := by
  unfold Store.slot?
  rw [← List.head?_filter, ← List.head?_filter, h.slots]

theorem get? (h : stage.SameFor id other) : other.store.get? id = stage.store.get? id := by
  rw [Store.get?, h.slot?, Store.get?]

theorem contains (h : stage.SameFor id other) :
    other.store.contains id = stage.store.contains id := by
  rw [Store.contains, h.slot?, Store.contains]

/-- What is the same for a sprite has the same entry for it in the registry. -/
theorem work? (h : stage.SameFor id other) : other.registry.work? id = stage.registry.work? id := by
  unfold TaskRegistry.work?
  rw [← List.head?_filter, ← List.head?_filter, h.works]

/-- The tokens of the sprite are cancelled on both stages or on neither. -/
theorem isCancelled (h : stage.SameFor id other) {token : Token} (htoken : token.sprite = id) :
    other.registry.isCancelled token = stage.registry.isCancelled token := by
  unfold TaskRegistry.isCancelled
  rw [htoken, h.work?]

theorem active (h : stage.SameFor id other) : other.registry.active id = stage.registry.active id := by
  rw [TaskRegistry.active, h.work?, TaskRegistry.active]

/-- A sprite with work under way has a token for its timers to watch. -/
theorem speechToken (h : stage.SameFor id other) {token : Token} (htoken : token.sprite = id)
    (hlive : stage.registry.isCancelled token = false) :
    other.registry.speechToken id = stage.registry.speechToken id := by
  obtain ⟨work, hwork, _⟩ := (stage.registry.isCancelled_eq_false_iff token).1 hlive
  rw [htoken] at hwork
  rw [TaskRegistry.speechToken, h.work?, hwork, TaskRegistry.speechToken, hwork]
  rfl

/-- The same amendment leaves the stages the same, whichever sprite it is of. -/
theorem amend (h : stage.SameFor id other) (amended : Nat) (a : Amendment α) :
    (stage.amend amended a).SameFor id (other.amend amended a) := by
  refine ⟨h.config, h.hero, h.pointer, ?_, ?_⟩
  · unfold Stage.amend
    cases a.change with
    | none => exact h.slots
    | some change =>
      simp only [Option.elim_some, Store.filter_update]
      split
      case isTrue hid => rw [← hid, h.slots]
      case isFalse => exact h.slots
  · unfold Stage.amend
    cases a.countsOff with
    | false => exact h.works
    | true =>
      simp only [if_true, TaskRegistry.filter_countOff]
      split
      case isTrue hid => rw [← hid, h.works]
      case isFalse => exact h.works

end SameFor

/-- Amending a sprite leaves the stage what it is to all others. -/
theorem sameFor_amend_of_ne {id other : Nat} (hother : other ≠ id) (a : Amendment α) (stage : Stage α) :
    stage.SameFor other (stage.amend id a) := by
  refine ⟨rfl, rfl, rfl, ?_, ?_⟩
  · unfold amend
    cases a.change with
    | none => rfl
    | some change => simp only [Option.elim_some, Store.filter_update, if_neg hother]
  · unfold amend
    cases a.countsOff with
    | false => rfl
    | true => simp only [if_true, TaskRegistry.filter_countOff, if_neg hother]

namespace SameFrame

variable {stage other : Stage α}

theorem refl (stage : Stage α) : stage.SameFrame stage :=
  ⟨rfl, rfl, rfl, rfl, rfl, rfl, rfl, rfl, rfl, rfl⟩

theorem symm (h : stage.SameFrame other) : other.SameFrame stage :=
  ⟨h.config.symm, h.undo.symm, h.hero.symm, h.pointer.symm, h.random.symm, h.ids.symm, h.nextId.symm,
    h.selected.symm, h.registered.symm, h.nextSerial.symm⟩

theorem trans {last : Stage α} (hfirst : stage.SameFrame other) (hlast : other.SameFrame last) :
    stage.SameFrame last :=
  ⟨hlast.config.trans hfirst.config, hlast.undo.trans hfirst.undo, hlast.hero.trans hfirst.hero,
    hlast.pointer.trans hfirst.pointer, hlast.random.trans hfirst.random, hlast.ids.trans hfirst.ids,
    hlast.nextId.trans hfirst.nextId, hlast.selected.trans hfirst.selected,
    hlast.registered.trans hfirst.registered, hlast.nextSerial.trans hfirst.nextSerial⟩

/-- Amending a sprite leaves what all sprites share as it is. -/
theorem amend (id : Nat) (a : Amendment α) (stage : Stage α) : stage.SameFrame (stage.amend id a) := by
  refine ⟨rfl, rfl, rfl, rfl, rfl, ?_, ?_, ?_, ?_, ?_⟩
  · unfold Stage.amend
    cases a.change with
    | none => rfl
    | some change => exact stage.store.ids_update id change
  · unfold Stage.amend
    cases a.change <;> rfl
  · unfold Stage.amend
    cases a.change <;> rfl
  · unfold Stage.amend
    cases a.countsOff with
    | false => rfl
    | true => exact stage.registry.ids_countOff id
  · unfold Stage.amend
    cases a.countsOff <;> rfl

/-- A stage is no more than its frame and what it is to each sprite. -/
theorem eq (hframe : stage.SameFrame other) (hsame : ∀ id, stage.SameFor id other) : other = stage := by
  have hslots : other.store.slots = stage.store.slots :=
    Keyed.eq_of_filter Slot.id hframe.ids fun id => (hsame id).slots
  have hworks : other.registry.works = stage.registry.works :=
    Keyed.eq_of_filter SpriteWork.id hframe.registered fun id => (hsame id).works
  obtain ⟨hconfig, hundo, hhero, hpointer, hrandom, _, hnextId, hselected, _, hnextSerial⟩ := hframe
  obtain ⟨config, ⟨slots, nextId, selected⟩, undo, hero, ⟨works, nextSerial⟩, pointer, random⟩ := stage
  obtain ⟨config', ⟨slots', nextId', selected'⟩, undo', hero', ⟨works', nextSerial'⟩, pointer', random'⟩ :=
    other
  simp_all

end SameFrame

/-- Amendments of different sprites commute. -/
theorem amend_comm {id other : Nat} (hother : other ≠ id) (a b : Amendment α) (stage : Stage α) :
    (stage.amend id a).amend other b = (stage.amend other b).amend id a := by
  have hframe (first second : Nat) (a b : Amendment α) :
      stage.SameFrame ((stage.amend first a).amend second b) :=
    (SameFrame.amend first a stage).trans (.amend second b _)
  apply ((hframe other id b a).symm.trans (hframe id other a b)).eq
  intro k
  by_cases hk : k = id
  · have hne : k ≠ other := fun hsame => hother (hsame.symm.trans hk)
    have hthen := sameFor_amend_of_ne hne b (stage.amend id a)
    have hbefore := (sameFor_amend_of_ne hne b stage).amend id a
    exact hbefore.symm.trans hthen
  · have hthen := sameFor_amend_of_ne hk a (stage.amend other b)
    have hbefore := (sameFor_amend_of_ne hk a stage).amend other b
    exact hthen.symm.trans hbefore

end Stage

end SpriteStage
