import SpriteStage.Proofs.Keyed
import SpriteStage.Stage.TaskRegistry

namespace SpriteStage.TaskRegistry

/-- A change of an entry shows there and nowhere else. -/
private theorem work?_change (r : TaskRegistry) (id other : Nat) {f : SpriteWork → SpriteWork}
    (hid : ∀ work, (f work).id = work.id) :
    (r.change id f).work? other = if other = id then (r.work? id).map f else r.work? other :=
  Keyed.find?_change SpriteWork.id f (fun work hwork => (hid work).trans hwork) r.works other

/-- The entry that a sprite has once it is sure to have one. -/
def entry (r : TaskRegistry) (id : Nat) : SpriteWork :=
  (r.work? id).getD ⟨id, r.nextSerial, r.nextSerial + 1, 0⟩

/-- A sprite that is registered is not registered again. -/
theorem ensure_of_work? {r : TaskRegistry} {id : Nat} {work : SpriteWork}
    (hwork : r.work? id = some work) : r.ensure id = r := by
  simp only [ensure, hwork]

/-- A sprite that is not registered gets an entry with two new serials. -/
theorem ensure_of_none {r : TaskRegistry} {id : Nat} (hwork : r.work? id = none) :
    r.ensure id = ⟨r.works ++ [⟨id, r.nextSerial, r.nextSerial + 1, 0⟩], r.nextSerial + 2⟩ := by
  simp only [ensure, hwork]

/-- After registering a sprite it has an entry, and all others have theirs. -/
theorem work?_ensure (r : TaskRegistry) (id other : Nat) :
    (r.ensure id).work? other = if other = id then some (r.entry id) else r.work? other := by
  cases hwork : r.work? id with
  | some work =>
    rw [ensure_of_work? hwork, entry, hwork, Option.getD_some]
    split
    case isTrue hid => rw [hid, hwork]
    case isFalse => rfl
  | none =>
    rw [ensure_of_none hwork, entry, hwork, Option.getD_none, work?, Keyed.find?_add SpriteWork.id,
      ← work?]
    by_cases hid : other = id
    · simp [hid, hwork]
    · simp [hid, Ne.symm hid]

/-- Serials are given out upwards. -/
theorem nextSerial_le_ensure (r : TaskRegistry) (id : Nat) :
    r.nextSerial ≤ (r.ensure id).nextSerial := by
  unfold ensure
  split
  · exact Nat.le_refl _
  · exact Nat.le_add_right _ 2

/-- Starting a chain counts it at its sprite. -/
theorem work?_startChain (r : TaskRegistry) (id other : Nat) :
    (r.startChain id).work? other =
      if other = id then some { r.entry id with active := (r.entry id).active + 1 }
      else r.work? other := by
  have hchange := (r.ensure id).work?_change id other
    (f := fun work => { work with active := work.active + 1 }) fun _ => rfl
  rw [startChain, hchange, work?_ensure, work?_ensure, if_pos rfl]
  split
  case isTrue => rfl
  case isFalse => rfl

theorem cancelChains_of_none {r : TaskRegistry} {id : Nat} (hwork : r.work? id = none) :
    r.cancelChains id = r := by
  simp only [cancelChains, hwork]

/-- Cancelling chains gives the sprite a new serial for chains and a count of zero. -/
theorem work?_cancelChains (r : TaskRegistry) (id other : Nat) :
    (r.cancelChains id).work? other =
      if other = id then
        (r.work? id).map fun work => { work with chains := r.nextSerial, active := 0 }
      else r.work? other := by
  cases hwork : r.work? id with
  | none =>
    rw [cancelChains_of_none hwork]
    split
    case isTrue hid => rw [hid, hwork]; rfl
    case isFalse => rfl
  | some work =>
    have hchange := r.work?_change id other
      (f := fun work => { work with chains := r.nextSerial, active := 0 }) fun _ => rfl
    rw [hwork] at hchange
    simp only [cancelChains, hwork]
    exact hchange

theorem nextSerial_cancelChains_of_work? {r : TaskRegistry} {id : Nat} {work : SpriteWork}
    (hwork : r.work? id = some work) : (r.cancelChains id).nextSerial = r.nextSerial + 1 := by
  simp only [cancelChains, hwork]

/-- Serials are given out upwards here too. -/
theorem nextSerial_le_cancelChains (r : TaskRegistry) (id : Nat) :
    r.nextSerial ≤ (r.cancelChains id).nextSerial := by
  unfold cancelChains
  split
  · exact Nat.le_refl _
  · exact Nat.le_succ _

/-- A live chain that is finished is counted off at its sprite. -/
theorem work?_finishChain {r : TaskRegistry} {token : Token} (hlive : r.isCancelled token = false)
    (id other : Nat) :
    (r.finishChain id token).work? other =
      if other = id then (r.work? id).map fun work => { work with active := work.active - 1 }
      else r.work? other := by
  rw [finishChain, hlive]
  exact r.work?_change id other fun _ => rfl

@[simp] theorem nextSerial_finishChain (r : TaskRegistry) (id : Nat) (token : Token) :
    (r.finishChain id token).nextSerial = r.nextSerial := by
  unfold finishChain
  split <;> rfl

/-- Cancelling all work of a sprite removes its entry. -/
theorem work?_cancelSprite (r : TaskRegistry) (id other : Nat) :
    (r.cancelSprite id).work? other = if other = id then none else r.work? other :=
  Keyed.find?_remove SpriteWork.id r.works id other

/-- From one registry to the other one sprite has got this entry, or lost its own, and all other
    sprites have kept theirs. -/
structure Rewrites (before after : TaskRegistry) (id : Nat) (entry : Option SpriteWork) : Prop where
  serial_le : before.nextSerial ≤ after.nextSerial
  work? : ∀ other, after.work? other = if other = id then entry else before.work? other

/-- Registering a sprite rewrites its entry and no other. -/
theorem rewrites_ensure (r : TaskRegistry) (id : Nat) :
    r.Rewrites (r.ensure id) id (some (r.entry id)) :=
  ⟨r.nextSerial_le_ensure id, r.work?_ensure id⟩

theorem rewrites_startChain (r : TaskRegistry) (id : Nat) :
    r.Rewrites (r.startChain id) id
      (some { r.entry id with active := (r.entry id).active + 1 }) :=
  ⟨r.nextSerial_le_ensure id, r.work?_startChain id⟩

theorem rewrites_cancelChains (r : TaskRegistry) (id : Nat) :
    r.Rewrites (r.cancelChains id) id
      ((r.work? id).map fun work => { work with chains := r.nextSerial, active := 0 }) :=
  ⟨r.nextSerial_le_cancelChains id, r.work?_cancelChains id⟩

theorem rewrites_finishChain {r : TaskRegistry} {token : Token}
    (hlive : r.isCancelled token = false) (id : Nat) :
    r.Rewrites (r.finishChain id token) id
      ((r.work? id).map fun work => { work with active := work.active - 1 }) :=
  ⟨Nat.le_of_eq (r.nextSerial_finishChain id token).symm, work?_finishChain hlive id⟩

theorem rewrites_cancelSprite (r : TaskRegistry) (id : Nat) :
    r.Rewrites (r.cancelSprite id) id none :=
  ⟨Nat.le_refl _, r.work?_cancelSprite id⟩

end SpriteStage.TaskRegistry
