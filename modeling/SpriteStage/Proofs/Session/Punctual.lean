import SpriteStage.Proofs.Session.Precedes
import SpriteStage.Proofs.Session.Scheduled

namespace SpriteStage

variable {α : Type}

/-- The event is the turn of the task with an id. -/
def Event.isStepOf (n : Nat) : Event α → Bool
  | .step id => id = n
  | _ => false

/-- An event is a step of a task exactly if it names it. -/
theorem Event.isStepOf_iff {n : Nat} {event : Event α} : event.isStepOf n = true ↔ event = .step n := by
  cases event with
  | step id => simp [isStepOf]
  | control | pass => simp [isStepOf]

namespace Session

variable [Scalar α]

/-- In the course of a list of events the task with an id takes no step before it is due. -/
def OnTime (n : Nat) : List (Event α) → Session α → Prop
  | [], _ => True
  | event :: events, s =>
    (event = .step n → ∀ t, s.task? n = some t → s.due t ≤ s.now) ∧ OnTime n events (s.handle event)

instance decidableOnTime (n : Nat) :
    ∀ (events : List (Event α)) (s : Session α), Decidable (s.OnTime n events)
  | [], _ => .isTrue trivial
  | event :: events, s =>
    have := decidableOnTime n events (s.handle event)
    decidable_of_iff ((event.isStepOf n = true → (s.task? n).all (fun t => s.due t ≤ s.now) = true) ∧
      (s.handle event).OnTime n events)
      (by simp only [OnTime, Event.isStepOf_iff, Option.all_eq_true, decide_eq_true_eq])

/-- A task is on time in two runs, one behind the other, if it is in both. -/
theorem onTime_append {n : Nat} {s : Session α} {first rest : List (Event α)} :
    s.OnTime n (first ++ rest) ↔ s.OnTime n first ∧ (s.play first).OnTime n rest := by
  induction first generalizing s with
  | nil => exact (and_iff_right trivial).symm
  | cons event first ih => rw [List.cons_append, OnTime, OnTime, ih, and_assoc, play_cons]

omit [Scalar α] in
/-- A task that was not cancelled is due when it wakes. -/
theorem due_of_live {s : Session α} {t : Task α} (hlive : s.stage.registry.isCancelled t.token = false) :
    s.due t = t.wake := by
  rw [due, hlive]
  rfl

omit [Scalar α] in
/-- A task is due once the time has come for which it asked. -/
theorem due_le {s : Session α} {t : Task α} (hwake : t.wake ≤ s.now) : s.due t ≤ s.now := by
  unfold due
  split
  · exact Nat.le_refl _
  · exact hwake

/-- The clock never goes back. -/
theorem now_le_handle (event : Event α) (s : Session α) : s.now ≤ (s.handle event).now := by
  cases event with
  | control control =>
    exact moves_induction (motive := fun after => s.now ≤ after.now) (moves_perform control s)
      (Nat.le_refl _) fun _ _ hbefore hmove => by cases hmove <;> exact hbefore
  | step n =>
    simp only [handle]
    cases s.task? n with
    | none => exact Nat.le_refl _
    | some t => exact Nat.le_of_eq (now_runTask t s).symm
  | pass ms => exact Nat.le_add_right _ _

/-- The clock never goes back. -/
theorem now_le_play (events : List (Event α)) (s : Session α) : s.now ≤ (s.play events).now := by
  induction events generalizing s with
  | nil => exact Nat.le_refl _
  | cons event rest ih => exact Nat.le_trans (now_le_handle event s) (ih _)

/-- The later session comes about from the earlier one with all tasks on time. -/
def Punctual (before after : Session α) : Prop :=
  ∃ events, after = before.play events ∧ ∀ n, before.OnTime n events

namespace Punctual

theorem refl (s : Session α) : s.Punctual s :=
  ⟨[], rfl, fun _ => trivial⟩

theorem trans {first middle last : Session α} (hfirst : first.Punctual middle)
    (hlast : middle.Punctual last) : first.Punctual last := by
  obtain ⟨events, rfl, hevents⟩ := hfirst
  obtain ⟨rest, rfl, hrest⟩ := hlast
  exact ⟨events ++ rest, (play_append events rest first).symm,
    fun n => onTime_append.2 ⟨hevents n, hrest n⟩⟩

/-- Letting time go by wakes nobody. -/
theorem pass {s : Session α} {now : Nat} (hnow : s.now ≤ now) :
    s.Punctual ({ s with now := now } : Session α) := by
  refine ⟨[.pass (now - s.now)], ?_, fun n => ⟨nofun, trivial⟩⟩
  rw [play_cons, play_nil, handle, Nat.add_sub_cancel' hnow]

/-- Running a task that is due wakes nobody early. -/
theorem runTask {s : Session α} (h : s.Consistent) {t : Task α} (ht : t ∈ s.tasks)
    (hdue : s.due t ≤ s.now) : s.Punctual (s.runTask t) := by
  have hfound : s.task? t.id = some t := h.task?_eq_some_iff.2 ⟨ht, rfl⟩
  refine ⟨[.step t.id], by simp only [play_cons, play_nil, handle, hfound], ?_⟩
  refine fun n => ⟨?_, trivial⟩
  intro hstep other hother
  cases hstep
  rw [hfound] at hother
  cases hother
  exact hdue

end Punctual

/-- The schedule lets no task run before it is due. -/
theorem punctual_drainWith {s : Session α} (h : s.Reachable) (bound fuel : Nat) :
    s.Punctual (s.drainWith bound fuel) := by
  induction fuel generalizing s with
  | zero => exact .refl s
  | succ fuel ih =>
    unfold Session.drainWith
    split
    case h_1 => exact .refl s
    case h_2 t hnext =>
      have ht := mem_of_next? hnext
      have hle := Nat.le_max_left s.now (s.due t)
      dsimp only
      split
      case isTrue =>
        have hdue : ({ s with now := max s.now (s.due t) } : Session α).due t ≤ max s.now (s.due t) := by
          unfold due
          split
          · exact Nat.le_refl _
          · exact Nat.le_max_right _ _
        exact ((Punctual.pass hle).trans (.runTask (h.pass hle).consistent ht hdue)).trans
          (ih ((h.pass hle).runTask ht))
      case isFalse => exact .refl s

/-- Advancing the clock wakes every task on time. -/
theorem punctual_advance {s : Session α} (h : s.Reachable) (ms : Nat) : s.Punctual (s.advance ms) :=
  (punctual_drainWith h _ _).trans
    (.pass (now_drainWith_le (Nat.le_add_right _ _) (Nat.le_refl _) _))

/-- Waiting until nothing is under way wakes every task on time. -/
theorem punctual_settle {s : Session α} (h : s.Reachable) (limit : Nat) :
    s.Punctual (s.settle limit).2 := by
  have hrun : s.Punctual (s.runFor limit) := punctual_drainWith h _ _
  unfold Session.settle
  dsimp only
  split
  case isTrue => exact hrun
  case isFalse =>
    have hlast : (s.runFor limit).now ≤ s.now + limit :=
      now_drainWith_le (Nat.le_add_right _ _) (Nat.le_succ _) _
    exact (hrun.trans (.pass hlast)).trans (punctual_advance ((h.runFor limit).pass hlast) 0)

end Session

end SpriteStage
