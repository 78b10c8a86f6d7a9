import SpriteStage.Proofs.Stage.Amend
import SpriteStage.Proofs.Task.Phases
import SpriteStage.Proofs.Task.Writes

namespace SpriteStage

variable {α : Type}

/-- The next step of the task draws a random position. -/
def Task.Draws (stage : Stage α) (t : Task α) : Prop :=
  ∃ b, t.act? stage = some (.dispatch b) ∧ b.is .goToRandom = true

/-- Two tasks have the same to do for the same sprite, wherever and whenever they were started. -/
structure Task.Resembles (u t : Task α) : Prop where
  sprite : u.sprite = t.sprite
  token : u.token = t.token
  work : u.work.untimed = t.work.untimed

variable [Scalar α]

namespace Stage

/-- With Hero Mode off, committing a change amends the sprite. -/
theorem commit_eq_amend {stage : Stage α} (hoff : stage.hero = .off) (id : Nat)
    (change : Sprite α → Sprite α) : stage.commit id change = stage.amend id ⟨some change, false⟩ := by
  have hplain : stage.withHero .off = stage := by rw [← hoff]; rfl
  have hcommit := commit_eq_update id change stage
  rw [hplain] at hcommit
  exact hcommit

/-- With Hero Mode off, the end of a live chain amends its sprite and counts it off. -/
theorem signOff_eq_amend {stage : Stage α} (hoff : stage.hero = .off) {token : Token}
    (hlive : stage.registry.isCancelled token = false) (id : Nat) :
    stage.signOff id token = stage.amend id
      ⟨if stage.registry.isLast id token then some fun s => { s with isRunning := false } else none,
        true⟩ := by
  have hfinish : stage.registry.finishChain id token = stage.registry.countOff id := by
    rw [TaskRegistry.finishChain, hlive]
    rfl
  unfold signOff
  dsimp only
  rw [hfinish]
  split
  case isTrue =>
    have hcounted : ({ stage with registry := stage.registry.countOff id } : Stage α).hero = .off := hoff
    exact commit_eq_amend hcounted id _
  case isFalse => rfl

omit [Scalar α] in
/-- Whether a chain is the last of its sprite depends on what the stage is to the sprite. -/
theorem SameFor.isLast {id : Nat} {stage other : Stage α} (h : stage.SameFor id other) {token : Token}
    (htoken : token.sprite = id) : other.registry.isLast id token = stage.registry.isLast id token := by
  unfold TaskRegistry.isLast
  rw [h.isCancelled htoken, h.work?, h.active]

/-- Without a random position to draw, a block amends its sprite. A sprite with work under way needs no
    new entry in the registry for a timer. -/
theorem execute_eq_amend {stage : Stage α} (hoff : stage.hero = .off) {id : Nat} {sprite : Sprite α}
    (hsprite : stage.store.get? id = some sprite) {work : SpriteWork}
    (hwork : stage.registry.work? id = some work) {b : Block} (hdraws : ¬ b.is .goToRandom = true) :
    let effect := b.dispatch sprite ⟨stage.pointer, .origin, stage.config.sayDisplayMs⟩
    stage.execute id b = (stage.amend id ⟨effect.change?, false⟩, effect.after sprite.position) := by
  intro effect
  have hdraw : stage.drawFor b = (.origin, { stage with random := stage.random }) := by
    rw [drawFor, if_neg hdraws]
  have hexecute := execute_of_get? hsprite hdraw
  have hregistry : effect.registry id stage.registry = stage.registry := by
    cases effect with
    | speakFor => exact TaskRegistry.ensure_of_work? hwork
    | _ => rfl
  refine hexecute.trans (congrArg (·, effect.after sprite.position) ?_)
  rw [show (b.dispatch sprite ⟨stage.pointer, .origin, stage.config.sayDisplayMs⟩) = effect from rfl,
    hregistry, write]
  cases effect.change? with
  | none => rfl
  | some change => exact commit_eq_amend hoff id change

end Stage

namespace Task

/-- The task was not cancelled, its sprite is there, and Hero Mode is off. -/
structure AtWork (stage : Stage α) (t : Task α) : Prop where
  off : stage.hero = .off
  own : t.token.sprite = t.sprite
  known : stage.store.contains t.sprite = true
  live : stage.registry.isCancelled t.token = false

/-- What the next step of the task does, on the stage and on every other that is the same to its sprite. -/
def Amends (stage : Stage α) (t : Task α) (now : Nat) (a : Amendment α) (next : Option (Work α))
    (timer : Option Delay) : Prop :=
  ∀ (other : Stage α) (u : Task α) (later : Nat), stage.SameFor t.sprite other → u.Resembles t →
    u.work.elapsed later = t.work.elapsed now → ∃ left,
      u.step later other = ⟨other.amend t.sprite a, left, timer⟩ ∧ left.map (·.1.untimed) = next

/-- A cancelled task does nothing, and it is cancelled on every stage that is the same to its sprite. -/
theorem amends_of_cancelled {stage : Stage α} {t : Task α} (hown : t.token.sprite = t.sprite)
    (hcancelled : stage.registry.isCancelled t.token = true) (now : Nat) :
    t.Amends stage now ⟨none, false⟩ none none := by
  intro other u later hsame hu _
  have hsame : other.registry.isCancelled u.token = true := by
    rw [hu.token, hsame.isCancelled hown, hcancelled]
  rw [step, if_pos hsame]
  exact ⟨_, rfl, rfl⟩

/-- A step amends each stage that is the same to the sprite of the task in the same way. -/
theorem Amends.stage_step {stage other : Stage α} {t : Task α} {now : Nat} {a : Amendment α}
    {next : Option (Work α)} {timer : Option Delay} (h : t.Amends stage now a next timer)
    (hsame : stage.SameFor t.sprite other) : (t.step now other).stage = other.amend t.sprite a := by
  obtain ⟨left, hstep, _⟩ := h other t now hsame ⟨rfl, rfl, rfl⟩ rfl
  rw [hstep]

namespace AtWork

variable {stage : Stage α} {t : Task α}

omit [Scalar α] in
/-- A task at work is cancelled on no stage that is the same to its sprite. -/
theorem not_cancelled (h : t.AtWork stage) {other : Stage α} (hsame : stage.SameFor t.sprite other)
    {u : Task α} (hu : u.Resembles t) : ¬ other.registry.isCancelled u.token = true := by
  rw [hu.token, hsame.isCancelled h.own, h.live]
  nofun

omit [Scalar α] in
/-- Tasks that resemble each other outside a glide have the same work. -/
private theorem work_eq (hglide : t.work.isGliding = false) {u : Task α} (hu : u.Resembles t) :
    u.work = t.work :=
  Work.eq_of_untimed hu.work hglide

/-- But for a glide, a task that has the same to do takes the same step of its chain. -/
theorem step_chain (h : t.AtWork stage) {run : ChainRun α} (hwork : t.work = .chain run)
    (hglide : t.work.isGliding = false) {other : Stage α} (hsame : stage.SameFor t.sprite other)
    {u : Task α} (hu : u.Resembles t) (later : Nat) :
    u.step later other = run.step later t.sprite t.token other := by
  rw [step, if_neg (h.not_cancelled hsame hu), work_eq hglide hu, hwork, hu.sprite, hu.token]

/-- A timer amends its sprite. -/
theorem amends_clearSpeech (h : t.AtWork stage) {delay : Delay} {armed : Bool}
    (hwork : t.work = .clearSpeech delay armed) (now : Nat) : ∃ a next, t.Amends stage now a next none := by
  have hglide : t.work.isGliding = false := by rw [hwork]; rfl
  cases armed with
  | false =>
    refine ⟨⟨none, false⟩, some (.clearSpeech delay true), ?_⟩
    intro other u later hsame hu _
    rw [step, if_neg (h.not_cancelled hsame hu), work_eq hglide hu, hwork]
    exact ⟨_, rfl, rfl⟩
  | true =>
    refine ⟨⟨some fun s => { s with speech := .cleared }, false⟩, none, ?_⟩
    intro other u later hsame hu _
    rw [step, if_neg (h.not_cancelled hsame hu), work_eq hglide hu, hwork]
    dsimp only
    rw [Stage.commit_eq_amend (hsame.hero.trans h.off), hu.sprite]
    exact ⟨_, rfl, rfl⟩

/-- A chain that ends amends its sprite. -/
theorem amends_signOff (h : t.AtWork stage) {cursor : Cursor} {how : ChainEnd}
    (hwork : t.work = .chain ⟨cursor, .signOff how⟩) (now : Nat) : ∃ a, t.Amends stage now a none none := by
  have hglide : t.work.isGliding = false := by rw [hwork]; rfl
  refine ⟨⟨if stage.registry.isLast t.sprite t.token then
    some fun s => { s with isRunning := false } else none, true⟩, ?_⟩
  intro other u later hsame hu _
  have hlive : other.registry.isCancelled t.token = false := (hsame.isCancelled h.own).trans h.live
  rw [h.step_chain hwork hglide hsame hu]
  dsimp only [ChainRun.step]
  rw [Stage.signOff_eq_amend (hsame.hero.trans h.off) hlive, hsame.isLast h.own]
  exact ⟨_, rfl, rfl⟩

/-- How far a glide has come depends on the time for which it has lasted. -/
theorem amends_glide (h : t.AtWork stage) {cursor : Cursor} {origin target : Position α}
    {durationMs : Float} {started : Nat}
    (hwork : t.work = .chain ⟨cursor, .glide origin target durationMs started⟩) (now : Nat) :
    ∃ a next, t.Amends stage now a next none := by
  have hstep {other : Stage α} {u : Task α} {later : Nat} (hsame : stage.SameFor t.sprite other)
      (hu : u.Resembles t) (helapsed : u.work.elapsed later = t.work.elapsed now) : ∃ start,
        u.step later other =
          ChainRun.stepGlide later t.sprite cursor origin target durationMs start other ∧
        later - start = now - started := by
    obtain ⟨start, hstart⟩ := Work.eq_glide_of_untimed (hu.work.trans (by rw [hwork]))
    rw [hstart, hwork] at helapsed
    refine ⟨start, ?_, helapsed⟩
    rw [step, if_neg (h.not_cancelled hsame hu), hstart, hu.sprite]
    rfl
  cases hfraction : (glideFraction? durationMs (now - started) : Option α) with
  | some fraction =>
    refine ⟨⟨some fun s => { s with position := origin.towards target fraction }, false⟩,
      some (.chain ⟨cursor, .glide origin target durationMs 0⟩), ?_⟩
    intro other u later hsame hu helapsed
    obtain ⟨start, hstep, hsince⟩ := hstep hsame hu helapsed
    simp only [hstep, ChainRun.stepGlide, hsame.contains, h.known, if_true, hsince, hfraction,
      Stage.commit_eq_amend (hsame.hero.trans h.off)]
    exact ⟨_, rfl, rfl⟩
  | none =>
    refine ⟨⟨some fun s => { s with animation := none, position := target }, false⟩,
      some (.chain ⟨cursor, .dispatch⟩), ?_⟩
    intro other u later hsame hu helapsed
    obtain ⟨start, hstep, hsince⟩ := hstep hsame hu helapsed
    simp only [hstep, ChainRun.stepGlide, hsame.contains, h.known, if_true, hsince, hfraction,
      Stage.commit_eq_amend (hsame.hero.trans h.off)]
    exact ⟨_, rfl, rfl⟩

/-- A chain that dispatches a block amends its sprite, unless the block draws a random place. -/
theorem amends_due (h : t.AtWork stage) {cursor behind : Cursor} {b : Block}
    (hwork : t.work = .chain ⟨cursor, .dispatch⟩)
    (hturn : cursor.advance stage.config.maxSteps = .due b behind) (hdraws : ¬ b.is .goToRandom = true)
    (now : Nat) : ∃ a next timer, t.Amends stage now a next timer := by
  have hglide : t.work.isGliding = false := by rw [hwork]; rfl
  obtain ⟨sprite, hget⟩ := (Store.contains_iff_get? _ _).1 h.known
  obtain ⟨entry, hentry, _⟩ := (stage.registry.isCancelled_eq_false_iff t.token).1 h.live
  rw [h.own] at hentry
  let effect := b.dispatch sprite ⟨stage.pointer, .origin, stage.config.sayDisplayMs⟩
  let how := effect.after sprite.position
  let next := how.cursor stage.config.maxSteps cursor.previous behind
  refine ⟨⟨effect.change?, false⟩, some (.chain ⟨next, how.phase 0⟩), how.delay?, ?_⟩
  intro other u later hsame hu _
  have hdue : cursor.advance other.config.maxSteps = .due b behind := by rw [hsame.config, hturn]
  have hexecute := Stage.execute_eq_amend (hsame.hero.trans h.off) (hsame.get?.trans hget)
    (hsame.work?.trans hentry) hdraws
  rw [hsame.pointer, hsame.config] at hexecute
  rw [h.step_chain hwork hglide hsame hu]
  dsimp only [ChainRun.step]
  rw [ChainRun.stepDispatch_of_due hdue, hexecute, hsame.config]
  exact ⟨_, rfl, congrArg some (Work.untimed_phase next how later)⟩

/-- A chain that finds itself at its end leaves the stage as it is. -/
theorem amends_end (h : t.AtWork stage) {cursor : Cursor} (hwork : t.work = .chain ⟨cursor, .dispatch⟩)
    (hturn : ∀ b next, cursor.advance stage.config.maxSteps ≠ .due b next) (now : Nat) :
    ∃ a next, t.Amends stage now a next none := by
  have hglide : t.work.isGliding = false := by rw [hwork]; rfl
  obtain ⟨how, hend⟩ := ChainRun.stepDispatch_of_not_due (α := α) hturn
  refine ⟨⟨none, false⟩, some (.chain ⟨cursor, .signOff how⟩), ?_⟩
  intro other u later hsame hu _
  rw [h.step_chain hwork hglide hsame hu]
  dsimp only [ChainRun.step]
  rw [hend other later t.sprite (by rw [hsame.config])]
  exact ⟨_, rfl, rfl⟩

/-- Each step of a task that draws no random position amends its sprite. -/
theorem amends (h : t.AtWork stage) (hdraws : ¬ t.Draws stage) (now : Nat) :
    ∃ a next timer, t.Amends stage now a next timer := by
  cases hwork : t.work with
  | clearSpeech delay armed =>
    obtain ⟨a, next, hamends⟩ := h.amends_clearSpeech hwork now
    exact ⟨a, next, none, hamends⟩
  | chain run =>
    obtain ⟨cursor, phase⟩ := run
    cases phase with
    | signOff how =>
      obtain ⟨a, hamends⟩ := h.amends_signOff hwork now
      exact ⟨a, none, none, hamends⟩
    | glide origin target durationMs started =>
      obtain ⟨a, next, hamends⟩ := h.amends_glide hwork now
      exact ⟨a, next, none, hamends⟩
    | dispatch =>
      by_cases hdue : ∃ b rest, cursor.advance stage.config.maxSteps = .due b rest
      · obtain ⟨b, rest, hturn⟩ := hdue
        apply h.amends_due hwork hturn _ now
        intro hb
        have hact : t.act? stage = some (.dispatch b) := by
          simp [act?, h.live, hwork, hturn, h.known]
        exact hdraws ⟨b, hact, hb⟩
      · have hturn : ∀ b rest, cursor.advance stage.config.maxSteps ≠ .due b rest := by
          simpa using hdue
        obtain ⟨a, next, hamends⟩ := h.amends_end hwork hturn now
        exact ⟨a, next, none, hamends⟩

end AtWork

end Task

end SpriteStage
