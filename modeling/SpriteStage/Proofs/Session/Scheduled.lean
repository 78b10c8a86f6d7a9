import SpriteStage.Engine.Schedule
import SpriteStage.Proofs.Session.Consistent

namespace SpriteStage.Session

variable {α : Type}

/-- A fold that at each item keeps what it had or takes the item gives back one of the items. -/
theorem mem_of_foldl {β : Type} {choose : Option β → β → Option β}
    (hchoose : ∀ found item picked,
      choose found item = some picked → found = some picked ∨ picked = item)
    {items : List β} {picked : β} {found : Option β}
    (hpicked : items.foldl choose found = some picked) : found = some picked ∨ picked ∈ items := by
  induction items generalizing found with
  | nil => exact Or.inl hpicked
  | cons first rest ih =>
    rcases ih hpicked with hhere | hrest
    · rcases hchoose found first picked hhere with hfound | rfl
      · exact Or.inl hfound
      · exact Or.inr List.mem_cons_self
    · exact Or.inr (List.mem_cons_of_mem _ hrest)

/-- The task that the schedule picks is under way. -/
theorem mem_of_next? {s : Session α} {t : Task α} (ht : s.next? = some t) : t ∈ s.tasks := by
  have hpicked := mem_of_foldl (fun found task picked hchosen => by
    cases found with
    | none => exact Or.inr (Option.some.inj hchosen).symm
    | some best =>
      dsimp only at hchosen
      split at hchosen
      · exact Or.inr (Option.some.inj hchosen).symm
      · exact Or.inl hchosen) ht
  rcases hpicked with hnone | hmem
  · cases hnone
  · exact hmem

variable [Scalar α]

/-- A step takes no time. -/
theorem now_runTask (t : Task α) (s : Session α) : (s.runTask t).now = s.now := by
  rw [runTask_eq]
  obtain ⟨stage, next, timer⟩ := t.step s.now s.stage
  cases next <;> cases timer <;> rfl

/-- The clock does not run past the last step that is due before the bound. -/
theorem now_drainWith_le {s : Session α} {bound latest : Nat} (hnow : s.now ≤ latest)
    (hbound : bound ≤ latest + 1) (fuel : Nat) : (s.drainWith bound fuel).now ≤ latest := by
  induction fuel generalizing s with
  | zero => exact hnow
  | succ fuel ih =>
    unfold drainWith
    split
    case h_1 => exact hnow
    case h_2 t _ =>
      dsimp only
      split
      case isTrue hdue =>
        apply ih
        rw [now_runTask]
        exact Nat.max_le.2 ⟨hnow, by omega⟩
      case isFalse => exact hnow

namespace Reachable

/-- Time goes by in a session that comes about as one of its events. -/
theorem pass {s : Session α} (hs : s.Reachable) {now : Nat} (hnow : s.now ≤ now) :
    ({ s with now := now } : Session α).Reachable := by
  have hlater := hs.play [.pass (now - s.now)]
  rwa [play_cons, play_nil, handle, Nat.add_sub_cancel' hnow] at hlater

theorem runTask {s : Session α} (hs : s.Reachable) {t : Task α} (ht : t ∈ s.tasks) :
    (s.runTask t).Reachable := by
  have hstepped := hs.play [.step t.id]
  have hfound : s.task? t.id = some t := hs.consistent.task?_eq_some_iff.2 ⟨ht, rfl⟩
  simpa only [play_cons, play_nil, handle, hfound] using hstepped

/-- Draining a session is a run of it, whatever the bound. -/
theorem drainWith {s : Session α} (hs : s.Reachable) (bound fuel : Nat) :
    (s.drainWith bound fuel).Reachable := by
  induction fuel generalizing s with
  | zero => exact hs
  | succ fuel ih =>
    unfold Session.drainWith
    split
    case h_1 => exact hs
    case h_2 t hnext =>
      have ht := mem_of_next? hnext
      dsimp only
      split
      case isTrue => exact ih ((hs.pass (Nat.le_max_left s.now (s.due t))).runTask ht)
      case isFalse => exact hs

/-- Letting time go by under the schedule. -/
theorem advance {s : Session α} (hs : s.Reachable) (ms : Nat) : (s.advance ms).Reachable :=
  (hs.drainWith _ _).pass (now_drainWith_le (Nat.le_add_right _ _) (Nat.le_refl _) _)

theorem runFor {s : Session α} (hs : s.Reachable) (limit : Nat) : (s.runFor limit).Reachable :=
  hs.drainWith _ _

/-- Waiting until no task is left. -/
theorem settle {s : Session α} (hs : s.Reachable) (limit : Nat) : (s.settle limit).2.Reachable := by
  unfold Session.settle
  dsimp only
  split
  case isTrue => exact hs.runFor limit
  case isFalse =>
    have hlast : (s.runFor limit).now ≤ s.now + limit :=
      now_drainWith_le (Nat.le_add_right _ _) (Nat.le_succ _) _
    exact ((hs.runFor limit).pass hlast).advance 0

end Reachable

end SpriteStage.Session
