import SpriteStage.Proofs.Task.Acts

namespace SpriteStage

variable {α : Type}

namespace Work

/-- A frame of a glide is due next. -/
def isGliding : Work α → Bool
  | .chain ⟨_, .glide ..⟩ => true
  | _ => false

/-- How long the glide has lasted that the task is in. -/
def elapsed (now : Nat) : Work α → Nat
  | .chain ⟨_, .glide _ _ _ started⟩ => now - started
  | _ => 0

/-- The work without the time at which the glide was begun that the task is in. -/
def untimed : Work α → Work α
  | .chain ⟨cursor, .glide origin target durationMs _⟩ =>
    .chain ⟨cursor, .glide origin target durationMs 0⟩
  | work => work

/-- Outside a glide no work depends on the time. -/
theorem eq_of_untimed {work other : Work α} (hsame : work.untimed = other.untimed)
    (hglide : other.isGliding = false) : work = other := by
  have hother : other.untimed = other := by
    unfold untimed
    split
    case h_1 => cases hglide
    case h_2 => rfl
  rw [hother] at hsame
  unfold untimed at hsame
  split at hsame
  case h_1 =>
    rw [← hsame] at hglide
    cases hglide
  case h_2 => exact hsame

/-- What is a glide but for the time is that glide, begun at some time. -/
theorem eq_glide_of_untimed {work : Work α} {cursor : Cursor} {origin target : Position α}
    {durationMs : Float} {started : Nat}
    (hsame : work.untimed = (Work.chain ⟨cursor, .glide origin target durationMs started⟩).untimed) :
    ∃ later, work = .chain ⟨cursor, .glide origin target durationMs later⟩ := by
  unfold untimed at hsame
  split at hsame
  case h_1 => simp_all
  case h_2 hnot => exact absurd hsame (hnot _ _ _ _ _)

/-- But for the time, a block leaves its chain in the same phase whenever it is dispatched. -/
theorem untimed_phase (cursor : Cursor) (how : After α) (now : Nat) :
    (Work.chain ⟨cursor, how.phase now⟩).untimed = .chain ⟨cursor, how.phase 0⟩ := by
  cases how <;> rfl

end Work

namespace Task

/-- A block that is dispatched was due in the plan. -/
theorem mem_plan_of_act? {stage : Stage α} {t : Task α} {b : Block}
    (hact : t.act? stage = some (.dispatch b)) :
    .dispatch b ∈ t.work.plan stage.config.maxSteps := by
  obtain ⟨_, _, cursor, rest, hwork, hturn⟩ := dispatch_of_act? hact
  have hplan : t.work.plan stage.config.maxSteps = cursor.plan stage.config.maxSteps := by
    rw [hwork]
    rfl
  rw [hplan, Cursor.plan_of_due hturn]
  exact List.mem_cons_self

end Task

end SpriteStage
