import SpriteStage.Proofs.Session.Scheduled
import SpriteStage.Scene.Run

namespace SpriteStage.Session.Reachable

variable {α : Type} [Scalar α] {s : Session α}

/-- What is done only if a value is given comes about if doing it does. -/
theorem onWhenGiven {β : Type} (value : Option β) {change : β → Stage α → Stage α} (hs : s.Reachable)
    (hchange : ∀ x (s : Session α), s.Reachable → (s.onStage (change x)).Reachable) :
    (s.onStage (Scene.whenGiven value change)).Reachable := by
  cases value with
  | none => exact hs
  | some x => exact hchange x s hs

/-- A sprite of a scene is placed by control operations on the sprite that was added for it. -/
theorem onPlaceSprite (hs : s.Reachable) (sprite : SceneSprite) (kind : SpriteKind) :
    (s.onStage (Scene.placeSprite sprite kind)).Reachable := by
  let id := s.stage.store.nextId
  have hadded := hs.perform (.add kind)
  have hmoved := hadded.onWhenGiven sprite.position
    fun p _ hs => hs.perform (.moveTo id (.ofFloats p.x p.y))
  have hturned := hmoved.onWhenGiven sprite.rotation
    fun r _ hs => hs.perform (.setRotation id (Scalar.ofFloat r))
  have hsized := hturned.onWhenGiven sprite.size
    fun size _ hs => hs.perform (.changeSize id (Scalar.ofFloat size - kind.defaultSize))
  unfold onStage Scene.placeSprite
  dsimp only
  split
  case h_1 => exact hsized
  case h_2 => exact hsized.perform (.setProgram id (Program.ofExport sprite.program))

/-- The sprites of a scene are placed by control operations, up to the first that cannot
    be placed. -/
theorem onPlaceSprites (hs : s.Reachable) (index : Nat) (sprites : List SceneSprite) :
    (s.onStage fun stage => (Scene.placeSprites index sprites stage).2).Reachable := by
  induction sprites generalizing s index with
  | nil => exact hs
  | cons sprite rest ih =>
    simp only [Scene.placeSprites]
    cases sprite.kind? with
    | none => exact hs
    | some kind => exact ih (hs.onPlaceSprite sprite kind) (index + 1)

/-- Whatever comes of it, putting a scene on a stage is a row of control operations. -/
theorem onApply (hs : s.Reachable) (scene : Scene) :
    (s.onStage fun stage => (scene.apply stage).2).Reachable := by
  have hplaced := hs.onPlaceSprites 0 scene.sprites
  simp only [onStage, Scene.apply] at hplaced ⊢
  cases scene.fault? with
  | some fault => exact hs
  | none =>
    generalize Scene.placeSprites 0 scene.sprites s.stage = result at hplaced
    obtain ⟨ids, placed⟩ := result
    cases ids with
    | error fault => exact hplaced
    | ok ids =>
      have hpointed := hplaced.onWhenGiven scene.pointer
        fun p _ hs => hs.perform (.movePointer (.ofFloats p.x p.y))
      dsimp only
      split
      case isTrue => exact hpointed.perform (.switchHero true)
      case isFalse => exact hpointed

/-- Putting a scene on the stage of a session is done by control operations. -/
theorem onPlace {scene : Scene} {ids : List Nat} {stage : Stage α} (hs : s.Reachable)
    (hplace : scene.place s.stage = .ok (ids, stage)) :
    ({ s with stage := stage } : Session α).Reachable := by
  have happlied := hs.onApply scene
  simp only [onStage] at happlied
  unfold Scene.place at hplace
  generalize scene.apply s.stage = result at happlied hplace
  obtain ⟨found, placed⟩ := result
  cases found with
  | error fault => cases hplace
  | ok found =>
    cases hplace
    exact happlied

/-- Sprites are run one after the other by control operations. -/
theorem runEach (hs : s.Reachable) (ids : List Nat) :
    (ids.foldl (fun s id => s.run id) s).Reachable := by
  induction ids generalizing s with
  | nil => exact hs
  | cons id rest ih => exact ih (hs.perform (.run id))

end SpriteStage.Session.Reachable

namespace SpriteStage.Scene

variable {α : Type} [Scalar α]

/-- A scene starts in a session that comes about. -/
theorem reachable_of_start {config : Config} {entropy : Nat} {all : Bool} {scene : Scene}
    {s : Session α} (hstart : scene.start config entropy all = .ok s) : s.Reachable := by
  have hnew : (Session.new config entropy : Session α).Reachable := ⟨config, entropy, [], rfl⟩
  unfold start at hstart
  cases hplace : scene.place (Session.new config entropy : Session α).stage with
  | error fault => simp [hplace, bind, Except.bind] at hstart
  | ok placed =>
    obtain ⟨ids, stage⟩ := placed
    have hplaced := hnew.onPlace hplace
    simp only [hplace, bind, Except.bind, pure, Except.pure, Except.ok.injEq] at hstart
    subst hstart
    split
    case isTrue => exact hplaced.perform .runAll
    case isFalse => exact hplaced.runEach ids

/-- A scene ends in a session that comes about. -/
theorem reachable_of_run {config : Config} {entropy : Nat} {all : Bool} {limit : Nat} {scene : Scene}
    {s : Session α} (hrun : scene.run config entropy all limit = .ok s) : s.Reachable := by
  unfold run at hrun
  cases hstart : (scene.start config entropy all : Except SceneFault (Session α)) with
  | error fault => simp [hstart, bind, Except.bind] at hrun
  | ok started =>
    simp only [hstart, bind, Except.bind, pure, Except.pure, Except.ok.injEq] at hrun
    subst hrun
    exact (reachable_of_start hstart).runFor limit

end SpriteStage.Scene
