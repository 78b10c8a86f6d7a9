import SpriteStage.Proofs.Number.Exact
import SpriteStage.Proofs.Task.Accounts
import SpriteStage.Proofs.Task.Phases
import SpriteStage.Proofs.Task.Writes

namespace SpriteStage

variable {α : Type}

/-- A quantity of the pose of a sprite. -/
inductive Quantity where
  | x
  | y
  | rotation
  | size

def Sprite.quantity (q : Quantity) (s : Sprite α) : α :=
  match q with
  | .x => s.position.x
  | .y => s.position.y
  | .rotation => s.rotation
  | .size => s.size

theorem Sprite.untraded_quantity (q : Quantity) : Store.Untraded (Sprite.quantity (α := α) q) := by
  intro sprite id speech program
  cases q <;> rfl

namespace Block

/-- The block puts a sprite somewhere, or in some direction, whatever its pose is. -/
def places (b : Block) : Bool :=
  match b.kind? with
  | some .goTo | some .goToRandom | some .setX | some .setY | some .glide => true
  | some .pointTowards => b.text "target" = mousePointer
  | _ => false

/-- The field that says how much the block adds to a pose, if it is a block that does. -/
def addend? (b : Block) : Option String :=
  match b.kind? with
  | some .move => some "x_position"
  | some .changeXBy => some "delta_x"
  | some .changeYBy => some "delta_y"
  | some .clockwise | some .anticlockwise => some "angle"
  | some .changeSize => some "size"
  | _ => none

/-- The block changes no pose but by adding a number to it. -/
structure IsAdditive (b : Block) : Prop where
  not_places : b.places = false
  finite : ∀ field, b.addend? = some field → Number.isFinite (b.number field) = true

instance (b : Block) : Decidable b.IsAdditive :=
  decidable_of_iff (b.places = false ∧ b.addend?.all fun field => Number.isFinite (b.number field)) <| by
    constructor
    · rintro ⟨hplaces, hfinite⟩
      exact ⟨hplaces, by simpa [Option.all_eq_true] using hfinite⟩
    · rintro ⟨hplaces, hfinite⟩
      exact ⟨hplaces, by simpa [Option.all_eq_true] using hfinite⟩

/-- How much the block adds to a quantity. -/
noncomputable def delta (q : Quantity) (b : Block) : ℝ :=
  match b.kind?, q with
  | some .move, .x => b.scalar "x_position"
  | some .changeXBy, .x => b.scalar "delta_x"
  | some .changeYBy, .y => b.scalar "delta_y"
  | some .clockwise, .rotation => b.scalar "angle"
  | some .anticlockwise, .rotation => -b.scalar "angle"
  | some .changeSize, .size => b.scalar "size"
  | _, _ => 0

/-- A block that does not place its sprite adds to each quantity what the block says. -/
theorem quantity_dispatch {b : Block} (hb : b.places = false) (sprite : Sprite ℝ)
    (context : Context ℝ) (q : Quantity) :
    (((b.dispatch sprite context).change?.elim sprite fun change => change sprite).quantity q) =
      sprite.quantity q + b.delta q := by
  unfold places at hb
  unfold dispatch delta
  cases hkind : b.kind? with
  | none => cases q <;> simp [Effect.change?]
  | some kind =>
    cases kind <;> simp only [hkind, reduceCtorEq] at hb
    case pointTowards =>
      have htarget : ¬ b.text "target" = mousePointer := by simpa using hb
      cases q <;> simp [htarget, Effect.change?]
    all_goals
      cases q <;> simp [Effect.change?, Sprite.quantity, speak, sub_eq_add_neg]

/-- A block that places no sprite starts no glide. -/
theorem dispatch_ne_glide [Scalar α] {b : Block} (hb : b.places = false) (sprite : Sprite α)
    (context : Context α) (target : Position α) (durationMs : Float) :
    b.dispatch sprite context ≠ .glide target durationMs := by
  unfold places at hb
  unfold dispatch
  cases hkind : b.kind? with
  | none => simp
  | some kind =>
    cases kind <;> simp only [hkind, reduceCtorEq] at hb
    case pointTowards =>
      have htarget : ¬ b.text "target" = mousePointer := by simpa using hb
      simp [htarget]
    all_goals simp

/-- Such a block never leaves its chain in a glide. -/
theorem isGliding_after [Scalar α] {b : Block} (hb : b.places = false) (sprite : Sprite α)
    (context : Context α) (rest : Cursor) (now : Nat) :
    (Work.chain ⟨rest, ((b.dispatch sprite context).after sprite.position).phase now⟩).isGliding =
      false := by
  cases heffect : b.dispatch sprite context with
  | glide target durationMs => exact absurd heffect (dispatch_ne_glide hb sprite context target durationMs)
  | _ => rfl

end Block

/-- All that the task has still to do to a pose is to dispatch blocks that add to it. -/
structure Work.IsAdditive (limit : Nat) (work : Work α) : Prop where
  not_gliding : work.isGliding = false
  blocks : ∀ b, .dispatch b ∈ work.plan limit → b.IsAdditive

/-- A timer never touches a pose. -/
theorem Task.isAdditive_of_timer {t : Task α} (htimer : t.isChain = false) (limit : Nat) :
    t.work.IsAdditive limit := by
  cases hwork : t.work with
  | chain run => simp [Task.isChain, hwork] at htimer
  | clearSpeech delay armed => exact ⟨rfl, by simp [Work.plan]⟩

namespace Task

/-- How much the next step of the task adds to a quantity. -/
noncomputable def adds (q : Quantity) (stage : Stage α) (t : Task α) : ℝ :=
  ((t.act? stage).bind Act.block?).elim 0 (·.delta q)

/-- A task that was cancelled adds nothing. -/
theorem adds_of_not_live {stage : Stage α} {t : Task α} (hdead : ¬ t.isLiveOn stage.registry t.sprite = true)
    (q : Quantity) : t.adds q stage = 0 := by
  have hact : t.act? stage = none := by
    cases hlive : stage.registry.isCancelled t.token with
    | true => exact act?_of_cancelled hlive
    | false =>
      cases hwork : t.work with
      | chain run => simp [isLiveOn, hlive, isChain_of_work hwork] at hdead
      | clearSpeech delay armed => simp [act?, hlive, hwork]
  simp [adds, hact]

variable [Scalar α]

/-- Apart from the frames of a glide, only a dispatch changes a pose. -/
theorem quantity_step_of_still {stage : Stage α} {t : Task α}
    (hstill : ∀ b, t.act? stage ≠ some (.dispatch b))
    (hglide : stage.registry.isCancelled t.token = false → t.work.isGliding = false)
    (now : Nat) (q : Quantity) (id : Nat) :
    ((t.step now stage).stage.store.get? id).map (Sprite.quantity q) =
      (stage.store.get? id).map (Sprite.quantity q) := by
  have hcommit {change : Sprite α → Sprite α} (hkept : ∀ s, (change s).quantity q = s.quantity q) :=
    Stage.map_get?_commit_of_kept (Sprite.untraded_quantity q) hkept t.sprite id
  unfold step
  unfold act? at hstill
  cases hlive : stage.registry.isCancelled t.token with
  | true => rfl
  | false =>
    simp only [hlive, Bool.false_eq_true, if_false] at hstill ⊢
    have hglide := hglide hlive
    cases hwork : t.work with
    | clearSpeech delay armed =>
      cases armed with
      | false => rfl
      | true => exact hcommit (by cases q <;> exact fun _ => rfl) stage
    | chain run =>
      obtain ⟨cursor, phase⟩ := run
      cases phase with
      | glide => simp [hwork, Work.isGliding] at hglide
      | signOff how =>
        simp only [ChainRun.step, Stage.signOff]
        split
        · exact hcommit (by cases q <;> exact fun _ => rfl) _
        · rfl
      | dispatch =>
        simp only [hwork] at hstill
        simp only [ChainRun.step, ChainRun.stepDispatch]
        cases hturn : cursor.advance stage.config.maxSteps with
        | finished => rfl
        | runaway => rfl
        | due b next =>
          -- The sprite of the task is not there, so the block is not carried out.
          have hnone : stage.store.get? t.sprite = none := by
            apply Store.get?_of_unknown
            intro hknown
            simp [hturn, hknown] at hstill
          simp only [Stage.execute_of_unknown hnone, ChainRun.goOn, Stage.store_drawFor]

/-- A task never moves another sprite than its own. -/
theorem quantity_step_of_ne {stage : Stage α} {t : Task α} {id : Nat} (hother : id ≠ t.sprite)
    (now : Nat) (q : Quantity) :
    ((t.step now stage).stage.store.get? id).map (Sprite.quantity q) =
      (stage.store.get? id).map (Sprite.quantity q) :=
  map_get?_step_of_ne (Sprite.untraded_quantity q) hother now

/-- A step of an additive task adds to the pose of its sprite what its block says. -/
theorem quantity_step {stage : Stage ℝ} {t : Task ℝ}
    (h : stage.registry.isCancelled t.token = false → t.work.IsAdditive stage.config.maxSteps)
    (now : Nat) (q : Quantity) :
    ((t.step now stage).stage.store.get? t.sprite).map (Sprite.quantity q) =
      (stage.store.get? t.sprite).map fun sprite => sprite.quantity q + t.adds q stage := by
  by_cases hact : ∃ b, t.act? stage = some (.dispatch b)
  · obtain ⟨b, hact⟩ := hact
    obtain ⟨hlive, hknown, _⟩ := dispatch_of_act? hact
    obtain ⟨next, hstep⟩ := step_of_dispatch hact now
    obtain ⟨sprite, hsprite⟩ := (Store.contains_iff_get? _ _).1 hknown
    obtain ⟨point, random, hdraw⟩ := stage.drawFor_eq b
    have hb := ((h hlive).blocks b (mem_plan_of_act? hact)).not_places
    have hadds : t.adds q stage = b.delta q := by simp [adds, hact, Act.block?]
    have hexecute := Stage.execute_of_get? hsprite (hdraw stage.hero)
    rw [hstep, hadds]
    dsimp only
    rw [hexecute, Stage.map_get?_write (Sprite.untraded_quantity q), if_pos rfl, hsprite,
      Option.map_some, Option.map_some, Block.quantity_dispatch hb]
  · have hstill : ∀ b, t.act? stage ≠ some (.dispatch b) := fun b hb => hact ⟨b, hb⟩
    have hadds : t.adds q stage = 0 := by
      unfold adds
      cases hnext : t.act? stage with
      | none => rfl
      | some act =>
        cases act with
        | dispatch b => exact absurd hnext (hstill b)
        | finish how => rfl
    rw [quantity_step_of_still hstill (fun hlive => (h hlive).not_gliding), hadds]
    simp

/-- An additive chain never comes into a glide. -/
theorem isGliding_step {stage : Stage α} {t : Task α}
    (hlive : stage.registry.isCancelled t.token = false)
    (hknown : stage.store.contains t.sprite = true) (hchain : t.isChain = true)
    (h : t.work.IsAdditive stage.config.maxSteps) {now pause : Nat} {work : Work α}
    (hnext : (t.step now stage).next = some (work, pause)) : work.isGliding = false := by
  have hnot : ¬ stage.registry.isCancelled t.token = true := by simp [hlive]
  rw [step, if_neg hnot] at hnext
  cases hwork : t.work with
  | clearSpeech => simp [isChain, hwork] at hchain
  | chain run =>
    obtain ⟨cursor, phase⟩ := run
    simp only [hwork, ChainRun.step] at hnext
    cases phase with
    | signOff how => cases hnext
    | glide => simpa [hwork, Work.isGliding] using h.not_gliding
    | dispatch =>
      by_cases hdue : ∃ b rest, cursor.advance stage.config.maxSteps = .due b rest
      · obtain ⟨b, rest, hturn⟩ := hdue
        obtain ⟨sprite, hsprite⟩ := (Store.contains_iff_get? _ _).1 hknown
        obtain ⟨point, random, hdraw⟩ := stage.drawFor_eq b
        have hact : t.act? stage = some (.dispatch b) := by
          simp [act?, hlive, hwork, hturn, hknown]
        have hb := (h.blocks b (mem_plan_of_act? hact)).not_places
        have hexecute := Stage.execute_of_get? hsprite (hdraw stage.hero)
        rw [ChainRun.stepDispatch_of_due hturn, hexecute] at hnext
        simp only [Option.some.injEq, Prod.mk.injEq] at hnext
        rw [← hnext.1]
        exact Block.isGliding_after hb sprite _ _ now
      · have hturn : ∀ b rest, cursor.advance stage.config.maxSteps ≠ .due b rest := by
          simpa using hdue
        obtain ⟨how, hend⟩ := ChainRun.stepDispatch_of_not_due (α := α) hturn
        rw [hend stage now t.sprite rfl, ChainRun.goOn] at hnext
        cases hnext
        rfl

/-- What is left of an additive task after a step is additive. -/
theorem isAdditive_step {stage : Stage α} {t : Task α}
    (hlive : stage.registry.isCancelled t.token = false)
    (hknown : stage.store.contains t.sprite = true) (hchain : t.isChain = true)
    (h : t.work.IsAdditive stage.config.maxSteps) {now pause : Nat} {work : Work α}
    (hnext : (t.step now stage).next = some (work, pause)) :
    work.IsAdditive stage.config.maxSteps := by
  refine ⟨isGliding_step hlive hknown hchain h hnext, ?_⟩
  intro b hb
  apply h.blocks
  rw [plan_step hlive hknown hchain now, hnext]
  exact List.mem_append_right _ hb

end Task

end SpriteStage
