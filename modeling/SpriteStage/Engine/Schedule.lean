import SpriteStage.Engine.Session

namespace SpriteStage.Session

variable {α : Type} [Scalar α]

omit [Scalar α] in
/-- When a task has its next step. A cancelled task is due at once, to be dropped. -/
def due (s : Session α) (task : Task α) : Nat :=
  if s.stage.registry.isCancelled task.token then s.now else task.wake

omit [Scalar α] in
/-- The first task is due before the second. -/
def before (s : Session α) (a b : Task α) : Bool :=
  s.due a < s.due b || (s.due a = s.due b && a.stamp < b.stamp)

omit [Scalar α] in
/-- The task whose turn is next. -/
def next? (s : Session α) : Option (Task α) :=
  s.tasks.foldl (fun found task =>
    match found with
    | none => some task
    | some best => if s.before task best then some task else found) none

/-- Runs the steps that are due before a time, `fuel` of them at most. -/
def drainWith (bound : Nat) : Nat → Session α → Session α
  | 0, s => s
  | fuel + 1, s =>
    match s.next? with
    | none => s
    | some task =>
      let time := s.due task
      if time < bound then drainWith bound fuel (runTask task { s with now := max s.now time })
      else s

omit [Scalar α] in
/-- More steps than can be due before a time. A chain dispatches as many blocks as the limit allows,
    each of which may end a glide or start a timer of two steps, and it draws at most one frame of a
    glide in a millisecond. -/
def stepBound (bound : Nat) (s : Session α) : Nat :=
  s.tasks.length * (4 * (s.stage.config.maxSteps + 2) + (bound - s.now) + 8)

/-- Runs everything that is due before a time. The clock stops at the last step. -/
def drain (bound : Nat) (s : Session α) : Session α :=
  drainWith bound (s.stepBound bound) s

/-- Lets some milliseconds pass, with everything that is due up to and including the last of
    them. -/
def advance (ms : Nat) (s : Session α) : Session α :=
  { s.drain (s.now + ms + 1) with now := s.now + ms }

/-- Runs the tasks until none is left, but not for longer than the limit. What is due exactly at the
    limit comes too late. -/
def runFor (limit : Nat) (s : Session α) : Session α :=
  s.drain (s.now + limit)

omit [Scalar α] in
/-- No task is under way. -/
def isSettled (s : Session α) : Bool := s.tasks.isEmpty

/-- Waits until no task is left, but not for longer than the limit. At the limit the clock stands
    still once everything due then has run; the answer is whether the wait was over before. -/
def settle (limit : Nat) (s : Session α) : Bool × Session α :=
  let ran := s.runFor limit
  if ran.isSettled then (true, ran)
  else (false, ({ ran with now := s.now + limit }).advance 0)

end SpriteStage.Session
