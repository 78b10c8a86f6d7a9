import SpriteStage.Proofs.Program.Faultless
import SpriteStage.Proofs.Session.Acts
import SpriteStage.Proofs.Task.Confined

namespace SpriteStage

variable {α : Type}

/-- The point with the given number in a stream, the next one being the first. -/
def RandomStream.pointAt (range : Float) : Nat → RandomStream → Float × Float
  | 0, r => (r.point range).1
  | k + 1, r => pointAt range k (r.point range).2

variable [Scalar α]

namespace Stage

/-- Changing a sprite takes nothing from the random stream. -/
@[simp] theorem random_commit (id : Nat) (change : Sprite α → Sprite α) (stage : Stage α) :
    (stage.commit id change).random = stage.random := by
  unfold commit
  split <;> rfl

/-- The end of a chain takes nothing from the random stream. -/
theorem random_signOff (id : Nat) (token : Token) (stage : Stage α) :
    (stage.signOff id token).random = stage.random := by
  unfold signOff
  dsimp only
  split
  · rw [random_commit]
  · rfl

/-- An undo takes nothing from the random stream. -/
theorem random_undoLast (stage : Stage α) : stage.undoLast.random = stage.random := by
  unfold undoLast
  split
  · rfl
  · rw [random_commit]
    rfl

/-- A block that goes to a random place takes one point from the stream. -/
theorem drawFor_of_draws {b : Block} (hdraws : b.is .goToRandom = true) (stage : Stage α) :
    stage.drawFor b = (.ofFloats (stage.random.pointAt stage.config.randomRange 0).1
        (stage.random.pointAt stage.config.randomRange 0).2,
      { stage with random := (stage.random.point stage.config.randomRange).2 }) := by
  rw [drawFor, if_pos hdraws]
  rfl

/-- A block that goes to no random place takes nothing from the stream. -/
theorem drawFor_of_not_draws {b : Block} (hdraws : ¬ b.is .goToRandom = true) (stage : Stage α) :
    stage.drawFor b = (.origin, stage) := by
  rw [drawFor, if_neg hdraws]

/-- Carrying out a block takes from the stream what is drawn for it. -/
theorem random_execute (id : Nat) (b : Block) (stage : Stage α) :
    (stage.execute id b).1.random = (stage.drawFor b).2.random := by
  unfold execute
  generalize stage.drawFor b = drawn
  obtain ⟨point, drawn⟩ := drawn
  dsimp only
  cases drawn.store.get? id with
  | none => rfl
  | some sprite =>
    dsimp only
    cases b.dispatch sprite ⟨drawn.pointer, point, drawn.config.sayDisplayMs⟩ <;>
      simp only [random_commit]

/-- A block that goes to a random place puts its sprite at the point that was drawn. -/
theorem position_execute_of_draws {id : Nat} {b : Block} {stage : Stage α} {sprite : Sprite α}
    (hsprite : stage.store.get? id = some sprite) (hdraws : b.is .goToRandom = true) :
    ((stage.execute id b).1.store.get? id).map (·.position) =
      some (.ofFloats (stage.random.pointAt stage.config.randomRange 0).1
        (stage.random.pointAt stage.config.randomRange 0).2) := by
  have hkind := Block.is_iff_kind?.1 hdraws
  rw [execute_of_get? hsprite (drawFor_of_draws hdraws stage), map_get?_write fun _ _ _ _ => rfl,
    if_pos rfl, hsprite]
  simp only [Block.dispatch, hkind, Effect.change?, Option.map_some, Option.elim_some]

end Stage

namespace Task

variable {stage : Stage α} {t : Task α}

/-- Of all steps only a dispatch can take anything from the stream. -/
theorem random_step_of_still (hstill : ∀ b, t.act? stage ≠ some (.dispatch b))
    (hknown : stage.registry.isCancelled t.token = false → stage.store.contains t.sprite = true)
    (now : Nat) : (t.step now stage).stage.random = stage.random := by
  unfold step
  unfold act? at hstill
  cases hlive : stage.registry.isCancelled t.token with
  | true => rfl
  | false =>
    simp only [hlive, Bool.false_eq_true, if_false] at hstill ⊢
    cases hwork : t.work with
    | clearSpeech delay armed =>
      cases armed with
      | false => rfl
      | true => exact Stage.random_commit _ _ _
    | chain run =>
      obtain ⟨cursor, phase⟩ := run
      cases phase with
      | signOff how => exact Stage.random_signOff _ _ _
      | glide origin target durationMs started =>
        simp only [ChainRun.step, ChainRun.stepGlide]
        split
        · split <;> exact Stage.random_commit _ _ _
        · rfl
      | dispatch =>
        simp only [hwork] at hstill
        simp only [ChainRun.step, ChainRun.stepDispatch]
        cases hturn : cursor.advance stage.config.maxSteps with
        | finished => rfl
        | runaway => rfl
        | due b next => simp [hturn, hknown hlive] at hstill

/-- A step takes nothing from the stream unless it takes its sprite to a random place. -/
theorem random_step_of_not_draws (hnot : ¬ t.Draws stage)
    (hknown : stage.registry.isCancelled t.token = false → stage.store.contains t.sprite = true)
    (now : Nat) : (t.step now stage).stage.random = stage.random := by
  by_cases hact : ∃ b, t.act? stage = some (.dispatch b)
  · obtain ⟨b, hact⟩ := hact
    obtain ⟨next, hstep⟩ := step_of_dispatch hact now
    have hplain : ¬ b.is .goToRandom = true := fun hdraws => hnot ⟨b, hact, hdraws⟩
    rw [hstep]
    dsimp only
    rw [Stage.random_execute, Stage.drawFor_of_not_draws hplain]
  · exact random_step_of_still (not_exists.1 hact) hknown now

/-- A step to a random place takes one point from the stream, and puts the sprite there. -/
theorem step_of_draws (hdraws : t.Draws stage) (now : Nat) :
    let range := stage.config.randomRange
    (t.step now stage).stage.random = (stage.random.point range).2 ∧
      ((t.step now stage).stage.store.get? t.sprite).map (·.position) =
        some (.ofFloats (stage.random.pointAt range 0).1 (stage.random.pointAt range 0).2) := by
  obtain ⟨b, hact, hrandom⟩ := hdraws
  obtain ⟨_, hknown, _⟩ := dispatch_of_act? hact
  obtain ⟨sprite, hsprite⟩ := (Store.contains_iff_get? _ _).1 hknown
  obtain ⟨next, hstep⟩ := step_of_dispatch hact now
  rw [hstep]
  dsimp only
  rw [Stage.random_execute, Stage.drawFor_of_draws hrandom]
  exact ⟨rfl, Stage.position_execute_of_draws hsprite hrandom⟩

end Task

namespace Session

omit [Scalar α] in
/-- The sprite that an event takes to a random place, if it does. -/
def strays? (event : Event α) (s : Session α) : Option Nat :=
  match event with
  | .step n => (s.task? n).bind fun t =>
    (((t.act? s.stage).bind Act.block?).filter (·.is .goToRandom)).map fun _ => t.sprite
  | _ => none

/-- Where the sprites stand that are taken to random places in the course of a list of events, each at
    the moment when it is. -/
def strayPoints : List (Event α) → Session α → List (Option (Position α))
  | [], _ => []
  | event :: events, s =>
    ((s.strays? event).map fun id => ((s.handle event).stage.store.get? id).map (·.position)).toList ++
      strayPoints events (s.handle event)

omit [Scalar α] in
/-- A step sends a sprite to a random place exactly if its task is about to do so. -/
theorem strays?_step_eq_some_iff {s : Session α} {n id : Nat} : s.strays? (.step n) = some id ↔
    ∃ t, s.task? n = some t ∧ t.Draws s.stage ∧ t.sprite = id := by
  constructor
  · intro hsome
    obtain ⟨t, ht, hmap⟩ := Option.bind_eq_some_iff.1 hsome
    obtain ⟨b, hfilter, hsprite⟩ := Option.map_eq_some_iff.1 hmap
    obtain ⟨hb, hrandom⟩ := Option.filter_eq_some_iff.1 hfilter
    obtain ⟨act, hact, hblock⟩ := Option.bind_eq_some_iff.1 hb
    cases act with
    | finish => cases hblock
    | dispatch =>
      cases hblock
      exact ⟨t, ht, ⟨b, hact, hrandom⟩, hsprite⟩
  · rintro ⟨t, ht, ⟨b, hact, hrandom⟩, rfl⟩
    simp only [strays?, ht, Option.bind_some, hact, Act.block?, Option.filter_some, hrandom, if_true,
      Option.map_some]

/-- No move of a control operation takes anything from the random stream. -/
theorem random_move {s after : Session α} (hmove : Move s after) :
    after.stage.random = s.stage.random := by
  cases hmove with
  | edit id hedit => exact Stage.random_commit _ _ _
  | delete id =>
    simp only [onStage, Stage.delete]
    split <;> rfl
  | undo => exact Stage.random_undoLast _
  | switchHero enabled => cases enabled <;> rfl
  | start hknown chain => exact Stage.random_commit _ _ _
  | _ => rfl

/-- An event that takes no sprite to a random place leaves the stream alone. -/
theorem random_handle_of_strays?_eq_none {s : Session α} (h : s.Consistent) {event : Event α}
    (hnone : s.strays? event = none) : (s.handle event).stage.random = s.stage.random := by
  cases event with
  | pass ms => rfl
  | control control =>
    exact moves_induction (motive := fun after => after.stage.random = s.stage.random)
      (moves_perform control s) rfl fun _ _ hbefore hmove => (random_move hmove).trans hbefore
  | step n =>
    simp only [handle]
    cases ht : s.task? n with
    | none => rfl
    | some t =>
      have hnot : ¬ t.Draws s.stage := by
        intro hdraws
        have hsome := strays?_step_eq_some_iff.2 ⟨t, ht, hdraws, rfl⟩
        rw [hnone] at hsome
        cases hsome
      dsimp only
      rw [stage_runTask]
      exact Task.random_step_of_not_draws hnot (h.contains_of_live (mem_of_task? ht).1) s.now

/-- An event that takes a sprite to a random place takes one point from the stream for it. -/
theorem handle_of_strays? {s : Session α} {event : Event α} {id : Nat} (hsome : s.strays? event = some id) :
    let range := s.stage.config.randomRange
    (s.handle event).stage.random = (s.stage.random.point range).2 ∧
      ((s.handle event).stage.store.get? id).map (·.position) =
        some (.ofFloats (s.stage.random.pointAt range 0).1 (s.stage.random.pointAt range 0).2) := by
  cases event with
  | control | pass => cases hsome
  | step n =>
    obtain ⟨t, ht, hdraws, rfl⟩ := strays?_step_eq_some_iff.1 hsome
    simp only [handle, ht, stage_runTask]
    exact t.step_of_draws hdraws s.now

/-- The points to which sprites are taken are those of the stream, one after the other. -/
theorem getElem?_strayPoints {s : Session α} (h : s.Consistent) {events : List (Event α)} {k : Nat}
    {point : Option (Position α)} (hpoint : (s.strayPoints events)[k]? = some point) :
    let drawn := s.stage.random.pointAt s.stage.config.randomRange k
    point = some (.ofFloats drawn.1 drawn.2) := by
  induction events generalizing s k with
  | nil => cases hpoint
  | cons event rest ih =>
    have hconfig := (h.precedes_handle event).config
    have hih {k : Nat} (hrest : ((s.handle event).strayPoints rest)[k]? = some point) :=
      ih (h.handle event) hrest
    rw [hconfig] at hih
    rw [strayPoints] at hpoint
    cases hevent : s.strays? event with
    | none =>
      rw [hevent] at hpoint
      rw [random_handle_of_strays?_eq_none h hevent] at hih
      exact hih hpoint
    | some id =>
      obtain ⟨hrandom, hposition⟩ := handle_of_strays? hevent
      rw [hevent, Option.map_some, Option.toList_some, List.singleton_append, hposition] at hpoint
      rw [hrandom] at hih
      cases k with
      | zero =>
        rw [List.getElem?_cons_zero, Option.some.injEq] at hpoint
        exact hpoint.symm
      | succ k =>
        rw [List.getElem?_cons_succ] at hpoint
        exact hih hpoint

/-- A sprite that is taken to a random place by the time the list of events is over stands at a point
    of the stream of the seed. -/
theorem getElem?_strayPoints_new {config : Config} {entropy k : Nat} {events : List (Event α)}
    {point : Option (Position α)} (hpoint : ((new config entropy).strayPoints events)[k]? = some point) :
    let drawn := (RandomStream.ofSeed (config.seed.getD entropy)).pointAt config.sanitized.randomRange k
    point = some (.ofFloats drawn.1 drawn.2) :=
  getElem?_strayPoints (.new config entropy) hpoint

/-- Random positions depend on the seed, the range and how many were drawn before. On two stages with
    the same seed and range, whatever happens on either, the sprites that are the `k`-th to be taken to
    a random place come to the same point. Each of these moves takes one point from the stream, and no
    other event takes anything from it or puts anything back. -/
theorem strayPoints_of_same_seed (config other : Config) (entropy entropy' : Nat)
    (hseed : config.seed.getD entropy = other.seed.getD entropy')
    (hrange : config.randomRange = other.randomRange) (events events' : List (Event α)) :
    (∀ (k : Nat) (a b : Option (Position α)), ((new config entropy).strayPoints events)[k]? = some a →
      ((new other entropy').strayPoints events')[k]? = some b →
      ∃ point : Position α, a = some point ∧ b = some point) ∧
    ∀ event : Event α, let s := (new config entropy).play events
      (s.strays? event = none → (s.handle event).stage.random = s.stage.random) ∧
      ∀ id, s.strays? event = some id →
        (s.handle event).stage.random = (s.stage.random.point s.stage.config.randomRange).2 := by
  refine ⟨?_, ?_⟩
  · intro k a b ha hb
    have hsanitized : config.sanitized.randomRange = other.sanitized.randomRange := by
      simp only [Config.sanitized, hrange]
    have hfirst := getElem?_strayPoints_new ha
    have hsecond := getElem?_strayPoints_new hb
    rw [hseed, hsanitized] at hfirst
    exact ⟨_, hfirst, hsecond⟩
  · intro event s
    have hconsistent : s.Consistent := Reachable.consistent ⟨config, entropy, events, rfl⟩
    exact ⟨random_handle_of_strays?_eq_none hconsistent, fun id hid => (handle_of_strays? hid).1⟩

/-- A dog strays once it has turned twice by a repeat. A cat strays in its second run, after the stage was
    reset, and that run is undone. With the same seed they come to the same point. -/
theorem strayPoints_of_same_seed_restarted :
    let flag : Block := ⟨"f", "when_flag_clicked", [], [], []⟩
    let stray : Block := ⟨"s", "go_to_random", [], [], []⟩
    let turn : Block := ⟨"t", "clockwise", [("angle", .int 90)], [], []⟩
    let again : Block := ⟨"r", "repeat", [("TIMES", .int 1)], [], []⟩
    let config := { Config.default with seed := some 7 }
    let other := { Config.default with stepDelayMs := 0 }
    let first : Session Float := new config 0
    let second : Session Float := new other 7
    let events := [.control (.add .dog), .control (.setProgram 1 [⟨flag, [turn, again, stray]⟩]),
      .control (.run 1), .step 0, .step 0, .step 0, .step 0, .step 0]
    let events' := [.control (.add .cat), .control (.setProgram 1 [⟨flag, [turn, stray]⟩]),
      .control (.run 1), .step 0, .control .reset, .control (.run 1), .step 1, .step 1, .step 1,
      .control .undo]
    config.seed.getD 0 = other.seed.getD 7 ∧ config.randomRange = other.randomRange ∧
      ∃ point, (first.strayPoints events)[0]? = some (some point) ∧
        (second.strayPoints events')[0]? = some (some point) := by
  intro flag stray turn again config other first second events events'
  have hfirst : 0 < (first.strayPoints events).length := by decide +kernel
  have hsecond : 0 < (second.strayPoints events').length := by decide +kernel
  obtain ⟨hsame, -⟩ := strayPoints_of_same_seed config other 0 7 rfl rfl events events'
  obtain ⟨point, ha, hb⟩ :=
    hsame 0 _ _ (List.getElem?_eq_getElem hfirst) (List.getElem?_eq_getElem hsecond)
  refine ⟨rfl, rfl, point, ?_, ?_⟩
  · rw [List.getElem?_eq_getElem hfirst, ha]
  · rw [List.getElem?_eq_getElem hsecond, hb]

end Session

end SpriteStage
