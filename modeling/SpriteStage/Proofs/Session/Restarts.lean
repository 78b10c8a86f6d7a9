import SpriteStage.Proofs.Session.Cancellation
import SpriteStage.Proofs.Session.Trading

namespace SpriteStage

variable {α : Type}

/-- The slot of a sprite after so many chains were started in place of those that ran on it. -/
def Slot.restarted (chains : Nat) (slot : Slot α) : Slot α :=
  ⟨slot.id, slot.version + 1 + chains, { slot.sprite.idle with isRunning := decide (0 < chains) }⟩

/-- The work of a chain that has not begun. -/
def Work.ofChain (c : Chain) : Work α :=
  .chain ⟨Cursor.start c, .dispatch⟩

namespace TaskRegistry

end TaskRegistry

namespace Store

end Store

namespace Session

/-- The chains that a choice picks for a sprite, if it is one of those that are to run. -/
def chosen (choose : Program → List Chain) (ids : List Nat) (id : Nat) (s : Session α) : List Chain :=
  if id ∈ ids then choose (s.stage.programOf id) else []

/-- The sprites for which it picks chains, each as it is at rest. -/
def newEntries (choose : Program → List Chain) (ids : List Nat) (s : Session α) : List (UndoEntry α) :=
  ids.filterMap fun id =>
    if choose (s.stage.programOf id) = [] then none
    else (s.stage.store.get? id).map fun sprite => ⟨id, sprite.idle⟩

/-- The session after the chosen chains were started, in place of those that ran on their sprites. -/
structure Restarted (choose : Program → List Chain) (ids : List Nat) (s after : Session α) : Prop where
  stage : after.stage = { s.stage with
    store := after.stage.store, undo := after.stage.undo, registry := after.stage.registry }
  store : after.stage.store = { s.stage.store with slots := after.stage.store.slots }
  sameIds : after.stage.store.ids = s.stage.store.ids
  /-- A sprite with chosen chains is at rest but for its flag, and no other sprite is touched. -/
  slot? : ∀ id, after.stage.store.slot? id =
    if s.chosen choose ids id = [] then s.stage.store.slot? id
    else (s.stage.store.slot? id).map (Slot.restarted (s.chosen choose ids id).length)
  undo : after.stage.undo.entries = (s.newEntries choose ids).reverse ++ s.stage.undo.entries
  active : ∀ id, after.stage.registry.active id =
    if s.chosen choose ids id = [] then s.stage.registry.active id
    else (s.chosen choose ids id).length
  /-- The earlier chains of these sprites are cancelled. -/
  cancelled : ∀ t ∈ s.tasks, t.isChain = true → s.chosen choose ids t.sprite ≠ [] →
    after.stage.registry.isCancelled t.token = true
  spared : ∀ t ∈ s.tasks, s.chosen choose ids t.sprite = [] →
    after.stage.registry.isCancelled t.token = s.stage.registry.isCancelled t.token
  /-- The new tasks are the chosen chains, and none of them is cancelled. -/
  tasks : ∃ started, after.tasks = s.tasks ++ started ∧
    after.nextTask = s.nextTask + started.length ∧
    (started.map fun t => (t.sprite, t.work)) = (ids.flatMap fun id =>
      (choose (s.stage.programOf id)).map fun c => (id, Work.ofChain c)) ∧
    ∀ t ∈ started, after.stage.registry.isCancelled t.token = false
  now : after.now = s.now

namespace Restarted

variable {choose : Program → List Chain} {ids : List Nat} {s after : Session α}

/-- No program changes. -/
theorem programOf (h : Restarted choose ids s after) (id : Nat) :
    after.stage.programOf id = s.stage.programOf id := by
  have hslot := h.slot? id
  unfold Stage.programOf Store.get?
  rw [hslot]
  split
  case isTrue => rfl
  case isFalse => cases s.stage.store.slot? id <;> rfl

/-- A restart does not change which chains there are to start. -/
theorem chosen_eq (h : Restarted choose ids s after) (ids' : List Nat) (id : Nat) :
    after.chosen choose ids' id = s.chosen choose ids' id := by
  rw [chosen, chosen, h.programOf]

/-- A sprite for which nothing is chosen keeps its slot. -/
theorem get?_of_not_mem (h : Restarted choose ids s after) {id : Nat} (hid : id ∉ ids) :
    after.stage.store.get? id = s.stage.store.get? id := by
  have hslot := h.slot? id
  rw [chosen, if_neg hid, if_pos rfl] at hslot
  rw [Store.get?, Store.get?, hslot]

/-- Runs on some sprites and then on others are runs on all of them. -/
theorem trans {ids' : List Nat} {middle : Session α} (hfirst : Restarted choose ids s middle)
    (hlast : Restarted choose ids' middle after) (hdisjoint : ids.Disjoint ids') :
    Restarted choose (ids ++ ids') s after := by
  -- No sprite is met twice, so what is chosen for a sprite is chosen in one of the two runs alone.
  have hleft {id : Nat} (hid : id ∈ ids) : s.chosen choose (ids ++ ids') id = s.chosen choose ids id ∧
      s.chosen choose ids' id = [] := by
    have hnot : id ∉ ids' := fun hmem => hdisjoint hid hmem
    simp [chosen, hid, hnot]
  have hright {id : Nat} (hid : id ∉ ids) : s.chosen choose (ids ++ ids') id = s.chosen choose ids' id ∧
      s.chosen choose ids id = [] := by
    simp [chosen, hid]
  have hchosen := hfirst.chosen_eq ids'
  have hentries : middle.newEntries choose ids' = s.newEntries choose ids' := by
    apply List.filterMap_congr
    intro id hid
    rw [hfirst.programOf, hfirst.get?_of_not_mem fun hmem => hdisjoint hmem hid]
  obtain ⟨started, htasks, hnext, hworks, hlive⟩ := hfirst.tasks
  obtain ⟨started', htasks', hnext', hworks', hlive'⟩ := hlast.tasks
  have hkept {t : Task α} (ht : t ∈ s.tasks) : t ∈ middle.tasks := htasks ▸ List.mem_append_left _ ht
  refine ⟨?_, ?_, hlast.sameIds.trans hfirst.sameIds, ?_, ?_, ?_, ?_, ?_, ⟨started ++ started', ?_⟩,
    hlast.now.trans hfirst.now⟩
  · rw [hlast.stage, hfirst.stage]
  · rw [hlast.store, hfirst.store]
  · intro id
    rw [hlast.slot?, hchosen, hfirst.slot?]
    by_cases hid : id ∈ ids
    · rw [(hleft hid).1, (hleft hid).2, if_pos rfl]
    · rw [(hright hid).1, (hright hid).2, if_pos rfl]
  · rw [hlast.undo, hfirst.undo, hentries, newEntries, newEntries, newEntries, List.filterMap_append,
      List.reverse_append, List.append_assoc]
  · intro id
    rw [hlast.active, hchosen, hfirst.active]
    by_cases hid : id ∈ ids
    · rw [(hleft hid).1, (hleft hid).2, if_pos rfl]
    · rw [(hright hid).1, (hright hid).2, if_pos rfl]
  · intro t ht hchain hsome
    by_cases hid : t.sprite ∈ ids
    · rw [(hleft hid).1] at hsome
      rw [hlast.spared t (hkept ht) ((hchosen _).trans (hleft hid).2)]
      exact hfirst.cancelled t ht hchain hsome
    · rw [(hright hid).1, ← hchosen] at hsome
      exact hlast.cancelled t (hkept ht) hchain hsome
  · intro t ht hnone
    have hnones : s.chosen choose ids t.sprite = [] ∧ s.chosen choose ids' t.sprite = [] := by
      by_cases hid : t.sprite ∈ ids
      · exact ⟨(hleft hid).1 ▸ hnone, (hleft hid).2⟩
      · exact ⟨(hright hid).2, (hright hid).1 ▸ hnone⟩
    rw [hlast.spared t (hkept ht) ((hchosen _).trans hnones.2), hfirst.spared t ht hnones.1]
  · refine ⟨by rw [htasks', htasks, List.append_assoc], by rw [List.length_append]; omega, ?_, ?_⟩
    · rw [List.map_append, List.flatMap_append, hworks, hworks']
      simp only [hfirst.programOf]
    · intro t ht
      rcases List.mem_append.1 ht with hold | hnew
      · have hsprite : t.sprite ∈ ids := by
          have hmem := List.mem_map_of_mem (f := fun t => (t.sprite, t.work)) hold
          rw [hworks] at hmem
          obtain ⟨id, hid, hpair⟩ := List.mem_flatMap.1 hmem
          obtain ⟨c, _, hc⟩ := List.mem_map.1 hpair
          rw [← (Prod.mk.inj hc).1]
          exact hid
        have hmem : t ∈ middle.tasks := htasks ▸ List.mem_append_right _ hold
        rw [hlast.spared t hmem ((hchosen _).trans (hleft hsprite).2), hlive t hold]
      · exact hlive' t hnew

end Restarted

variable [Scalar α]

section StartChosen

variable {s : Session α} (htracked : s.stage.Tracked) {choose : Program → List Chain} {id : Nat}
  (hsome : choose (s.stage.programOf id) ≠ [])

include htracked hsome

end StartChosen

end Session

end SpriteStage
