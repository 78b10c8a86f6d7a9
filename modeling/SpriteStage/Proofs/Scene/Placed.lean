import SpriteStage.Proofs.Number.Exact
import SpriteStage.Proofs.Scene.Faults
import SpriteStage.Proofs.Scene.Start
import SpriteStage.Proofs.Session.Trading

namespace SpriteStage

variable {α : Type}

namespace Stage

/-- The stage with more sprites behind those it has, under the ids that were next. -/
def put (added : List (Slot α)) (stage : Stage α) : Stage α :=
  { stage with
    store := { stage.store with
      slots := stage.store.slots ++ added
      nextId := stage.store.nextId + added.length } }

/-- Slots are put on a stage one after the other. -/
theorem put_cons (slot : Slot α) (rest : List (Slot α)) (stage : Stage α) :
    stage.put (slot :: rest) = (stage.put [slot]).put rest := by
  simp [put, Nat.add_assoc, Nat.add_comm 1]

variable [Scalar α]

/-- Without Hero Mode a new sprite is put on the stage and nothing else happens. -/
theorem add_of_off {stage : Stage α} (hoff : stage.hero = .off) (kind : SpriteKind) :
    stage.add kind = stage.put [⟨stage.store.nextId, 0, .fresh stage.store.nextId kind⟩] := by
  have hplain : stage = stage.withHero .off := by rw [withHero, ← hoff]
  rw [hplain]
  rfl

/-- Changing the sprite that was put on the stage last. -/
theorem commit_put {stage : Stage α} (hoff : stage.hero = .off) {id : Nat} (hnew : id ∉ stage.store.ids)
    (version : Nat) (sprite : Sprite α) (change : Sprite α → Sprite α) :
    (stage.put [⟨id, version, sprite⟩]).commit id change =
      stage.put [⟨id, version + 1, { change sprite with id := id }⟩] := by
  have hplain : (stage.put [⟨id, version, sprite⟩]).withHero .off = stage.put [⟨id, version, sprite⟩] := by
    rw [withHero, put, ← hoff]
  have hothers : (stage.store.slots.map fun slot =>
      if slot.id = id then ⟨id, slot.version + 1, { change slot.sprite with id := id }⟩ else slot) =
        stage.store.slots := by
    refine (List.map_congr_left fun slot hslot => if_neg ?_).trans (List.map_id' _)
    rintro rfl
    exact hnew (List.mem_map_of_mem hslot)
  rw [← hplain, commit_eq_update, hplain]
  simp [put, Store.update, hothers]

/-- Hero Mode that is off knows no pairs. -/
theorem Tracked.hero_eq_off {stage : Stage α} (h : stage.Tracked) (hoff : stage.hero.enabled = false) :
    stage.hero = .off := by
  rw [HeroMode.off, ← hoff, ← h.knows.colliding_of_off hoff]

/-- Hero Mode forgets its pairs when it is switched off, so every pair trades when it is switched on. -/
theorem switchHero_of_off {stage : Stage α} (hoff : stage.hero = .off) :
    stage.switchHero true =
      { stage with
        store := stage.store.trade stage.store.overlappingPairs
        hero := ⟨true, stage.store.overlappingPairs⟩ } := by
  have hall : (stage.hero.switch true).newContacts stage.store = stage.store.overlappingPairs := by
    rw [hoff]
    exact List.filter_true _
  simp only [switchHero, if_true, react, HeroMode.settle, hall]
  rfl

end Stage

namespace SceneSprite

variable [Scalar α]

/-- The size that a sprite of the scene gets: that of a fresh sprite, with the difference to the given one
    added to it. -/
def placedSize (kind : SpriteKind) (s : SceneSprite) : α :=
  s.size.elim kind.defaultSize fun size => kind.defaultSize + (Scalar.ofFloat size - kind.defaultSize)

/-- The sprite as the scene has it, and as a fresh one where the scene leaves it open. -/
def placed (id : Nat) (kind : SpriteKind) (nodes : List Json) (s : SceneSprite) : Sprite α :=
  { (Sprite.fresh id kind : Sprite α) with
    position := s.position.elim .start fun p => .ofFloats p.x p.y
    rotation := s.rotation.elim (Scalar.ofFloat 0) Scalar.ofFloat
    size := s.placedSize kind
    program := nodes.map Chain.ofNode }

/-- The slot has the sprite under an id as the scene has it. -/
structure PlacedAs (s : SceneSprite) (id : Nat) (slot : Slot α) : Prop where
  slot_id : slot.id = id
  sprite : ∃ kind nodes, s.kind? = some kind ∧ s.HasNodes nodes ∧ slot.sprite = s.placed id kind nodes

end SceneSprite

namespace Scene

variable [Scalar α]

/-- The slots have the sprites of a scene in order, under the ids from a given one on. -/
structure Placed (id : Nat) (sprites : List SceneSprite) (added : List (Slot α)) : Prop where
  length : added.length = sprites.length
  placedAs : ∀ (i : Nat) (s : SceneSprite), sprites[i]? = some s →
    ∃ slot, added[i]? = some slot ∧ s.PlacedAs (id + i) slot

theorem Placed.nil (id : Nat) : Placed id [] ([] : List (Slot α)) :=
  ⟨rfl, nofun⟩

theorem Placed.cons {id : Nat} {s : SceneSprite} {slot : Slot α} {rest : List SceneSprite}
    {added : List (Slot α)} (hfirst : s.PlacedAs id slot) (hrest : Placed (id + 1) rest added) :
    Placed id (s :: rest) (slot :: added) := by
  refine ⟨congrArg (· + 1) hrest.length, ?_⟩
  intro i other hother
  cases i with
  | zero =>
    cases hother
    exact ⟨slot, rfl, hfirst⟩
  | succ i =>
    rw [← Nat.add_assoc, Nat.add_right_comm]
    exact hrest.placedAs i other hother

/-- A value that a scene gives for a sprite changes the slot that was put last, and one that it does
    not give changes nothing. -/
theorem whenGiven_put {β : Type} {stage : Stage α} (hoff : stage.hero = .off) {id : Nat}
    (hnew : id ∉ stage.store.ids) (version : Nat) (sprite : Sprite α) (value : Option β)
    (change : β → Sprite α → Sprite α) : ∃ later,
      whenGiven value (fun x => Stage.commit id (change x)) (stage.put [⟨id, version, sprite⟩]) =
        stage.put [⟨id, later, value.elim sprite fun x => { change x sprite with id := id }⟩] := by
  cases value with
  | none => exact ⟨version, rfl⟩
  | some x => exact ⟨version + 1, Stage.commit_put hoff hnew version sprite (change x)⟩

/-- A sprite of the scene before it gets its program. -/
theorem pose_eq {stage : Stage α} (hoff : stage.hero = .off) {id : Nat} (hnew : id ∉ stage.store.ids)
    (s : SceneSprite) (kind : SpriteKind) :
    ∃ version, (stage.put [⟨id, 0, .fresh id kind⟩]
      |> whenGiven s.position (fun p => Stage.moveTo id (.ofFloats p.x p.y))
      |> whenGiven s.rotation (fun r => Stage.setRotation id (Scalar.ofFloat r))
      |> whenGiven s.size (fun size => Stage.changeSize id (Scalar.ofFloat size - kind.defaultSize))) =
        stage.put [⟨id, version, s.placed id kind []⟩] := by
  obtain ⟨name, position, rotation, size, program⟩ := s
  obtain ⟨moved, hmoved⟩ := whenGiven_put hoff hnew 0 (.fresh id kind) position
    fun p sprite => { sprite with position := .ofFloats p.x p.y }
  obtain ⟨turned, hturned⟩ := whenGiven_put hoff hnew moved _ rotation
    fun r sprite => { sprite with rotation := Scalar.ofFloat r }
  obtain ⟨sized, hsized⟩ := whenGiven_put hoff hnew turned _ size
    fun size sprite => { sprite with size := sprite.size + (Scalar.ofFloat size - kind.defaultSize) }
  refine ⟨sized, ?_⟩
  unfold Stage.moveTo Stage.setRotation Stage.changeSize
  rw [hmoved, hturned, hsized]
  cases position <;> cases rotation <;> cases size <;> rfl

/-- Without Hero Mode a sprite of a scene is put on the stage as the scene has it. -/
theorem placeSprite_eq {stage : Stage α} (hoff : stage.hero = .off)
    (hnew : stage.store.nextId ∉ stage.store.ids) {s : SceneSprite} (kind : SpriteKind)
    {nodes : List Json} (hnodes : s.HasNodes nodes) : ∃ version,
      placeSprite s kind stage =
        stage.put [⟨stage.store.nextId, version, s.placed stage.store.nextId kind nodes⟩] := by
  obtain ⟨version, hposed⟩ := pose_eq hoff hnew s kind
  simp only [placeSprite, Stage.add_of_off hoff, hposed]
  rcases hnodes with ⟨hnull, rfl⟩ | hholds
  · rw [hnull]
    exact ⟨version, rfl⟩
  · have hprogram : Program.ofExport s.program = nodes.map Chain.ofNode := by
      rw [Program.ofExport, Export.nodes?_eq_some_iff.2 hholds, Option.getD_some, Program.ofNodes]
    refine ⟨version + 1, ?_⟩
    split
    case h_1 hnull => simp [hnull, Export.Holds, Json.get?, Json.entries?] at hholds
    case h_2 =>
      rw [hprogram]
      exact Stage.commit_put hoff hnew version _ _

/-- Without Hero Mode, sound sprites come behind those of the stage, and nothing else happens. -/
theorem placeSprites_eq {stage : Stage α} (hoff : stage.hero = .off)
    (hids : ∀ id ∈ stage.store.ids, id < stage.store.nextId) (index : Nat) {sprites : List SceneSprite}
    (hsound : ∀ s ∈ sprites, s.Sound) : ∃ added, Placed stage.store.nextId sprites added ∧
      (placeSprites index sprites stage).2 = stage.put added := by
  induction sprites generalizing stage index with
  | nil => exact ⟨[], .nil _, by simp [placeSprites, Stage.put]⟩
  | cons first rest ih =>
    obtain ⟨hfirst, hrest⟩ := List.forall_mem_cons.1 hsound
    obtain ⟨kind, hkind⟩ := hfirst.kind
    obtain ⟨nodes, hnodes⟩ := hfirst.program
    obtain ⟨version, hplaced⟩ :=
      placeSprite_eq hoff (fun hmem => Nat.lt_irrefl _ (hids _ hmem)) kind hnodes
    -- The sprite has taken the id that was next, so the one that is next now is new as well.
    have hlater : ∀ id ∈ (placeSprite first kind stage).store.ids,
        id < (placeSprite first kind stage).store.nextId := by
      rw [hplaced]
      simp only [Stage.put, Store.ids, List.map_append, List.mem_append, List.map_cons, List.map_nil,
        List.mem_singleton, List.length_singleton]
      rintro id (hold | rfl)
      · exact Nat.lt_succ_of_lt (hids id hold)
      · exact Nat.lt_succ_self _
    obtain ⟨added, hadded, hstage⟩ := ih (by rw [hplaced]; exact hoff) hlater (index + 1) hrest
    rw [hplaced] at hadded hstage
    refine ⟨⟨stage.store.nextId, version, first.placed stage.store.nextId kind nodes⟩ :: added,
      .cons ⟨rfl, kind, nodes, hkind, hnodes, rfl⟩ hadded, ?_⟩
    rw [Stage.put_cons, ← hstage, ← hplaced]
    simp only [placeSprites, hkind]

theorem nextId_whenGiven {β : Type} (value : Option β) (id : Nat) (change : β → Sprite α → Sprite α)
    (stage : Stage α) :
    (whenGiven value (fun x => Stage.commit id (change x)) stage).store.nextId = stage.store.nextId := by
  cases value with
  | none => rfl
  | some x => exact Stage.nextId_commit id (change x) stage

/-- Placing a sprite gives out one id. -/
theorem nextId_placeSprite (s : SceneSprite) (kind : SpriteKind) (stage : Stage α) :
    (placeSprite s kind stage).store.nextId = stage.store.nextId + 1 := by
  have hadded : (stage.add kind).store.nextId = stage.store.nextId + 1 := by
    simp [Stage.add, Stage.react, Store.add]
  unfold placeSprite Stage.moveTo Stage.setRotation Stage.changeSize Stage.setProgram
  dsimp only
  split <;> simp only [Stage.nextId_commit, nextId_whenGiven, hadded]

/-- Sprites of known kinds get the ids that are next, whatever Hero Mode makes of them. -/
theorem ids_placeSprites (index : Nat) {sprites : List SceneSprite}
    (hkinds : ∀ s ∈ sprites, ∃ kind, s.kind? = some kind) (stage : Stage α) :
    (placeSprites index sprites stage).1 = .ok (List.range' stage.store.nextId sprites.length) := by
  induction sprites generalizing index stage with
  | nil => rfl
  | cons first rest ih =>
    obtain ⟨⟨kind, hkind⟩, hrest⟩ := List.forall_mem_cons.1 hkinds
    simp only [placeSprites, hkind, ih (index + 1) hrest, nextId_placeSprite, List.length_cons,
      List.range'_succ]
    rfl

/-- A scene with a fault leaves the stage as it is. -/
theorem apply_of_fault {scene : Scene} {fault : SceneFault} (hfault : scene.fault? = some fault)
    (stage : Stage α) : scene.apply stage = (.error fault, stage) := by
  rw [apply, hfault]

/-- A scene without a fault is placed to its last sprite. -/
theorem apply_of_sound {scene : Scene} (hnone : scene.fault? = none) (stage : Stage α) :
    scene.apply stage =
      let pointed := whenGiven scene.pointer (fun p => Stage.movePointer (.ofFloats p.x p.y))
        (placeSprites 0 scene.sprites stage).2
      (.ok (List.range' stage.store.nextId scene.sprites.length),
        if scene.heroMode then pointed.switchHero true else pointed) := by
  have hids := ids_placeSprites 0 (fun s hs => (sound_of_fault?_eq_none hnone s hs).kind) stage
  unfold apply
  rw [hnone]
  generalize placeSprites 0 scene.sprites stage = result at hids
  obtain ⟨ids, placed⟩ := result
  cases hids
  rfl

/-- Putting a scene on a stage fails with what is wrong with the scene first of all, and leaves the stage as
    it was. A scene without a fault is placed as a whole: on a stage without Hero Mode its sprites come
    behind those that are there, in order and under new ids. They have the kinds, poses and programs of the
    scene and are fresh in all else, and of the rest only the pointer changes. A scene with Hero Mode comes to
    the same, and then every pair that overlaps trades once. If nothing is rounded, a sprite has the very size
    that it was given. -/
theorem loads_completely_or_not_at_all {s : Session α} (hs : s.Reachable) (scene : Scene) :
    (∀ fault, (scene.apply s.stage).1 = .error fault ↔ scene.FirstFault fault) ∧
      (∀ fault, scene.fault? = some fault ↔ scene.FirstFault fault) ∧
      (∀ fault, scene.fault? = some fault → (scene.apply s.stage).2 = s.stage) ∧
      (scene.fault? = none → s.stage.hero.enabled = false →
        (∀ id ∈ s.stage.store.ids, id < s.stage.store.nextId) ∧
        ∃ added : List (Slot α), Placed s.stage.store.nextId scene.sprites added ∧
          let placed : Stage α :=
            { s.stage with
              store := { s.stage.store with
                slots := s.stage.store.slots ++ added
                nextId := s.stage.store.nextId + added.length }
              pointer := scene.pointer.elim s.stage.pointer fun p => .ofFloats p.x p.y }
          scene.apply s.stage = (.ok (List.range' s.stage.store.nextId scene.sprites.length),
            if scene.heroMode then
              { placed with
                store := placed.store.trade placed.store.overlappingPairs
                hero := ⟨true, placed.store.overlappingPairs⟩ }
            else placed)) ∧
      ((∀ a b : α, a + (b - a) = b) → ∀ (kind : SpriteKind) (sprite : SceneSprite),
        (sprite.placedSize kind : α) = sprite.size.elim kind.defaultSize Scalar.ofFloat) := by
  have hfails (fault : SceneFault) :
      (scene.apply s.stage).1 = .error fault ↔ scene.fault? = some fault := by
    cases hfault : scene.fault? with
    | none => simp [apply_of_sound hfault]
    | some other => simp [apply_of_fault hfault]
  refine ⟨fun fault => (hfails fault).trans fault?_eq_some_iff, fun _ => fault?_eq_some_iff,
    fun _ hfault => congrArg Prod.snd (apply_of_fault hfault s.stage), ?_, ?_⟩
  · intro hnone hdisabled
    have hids := hs.tracked.wellFormed.lt_nextId
    have hoff : s.stage.hero = .off := hs.tracked.hero_eq_off hdisabled
    obtain ⟨added, hadded, hplaced⟩ := placeSprites_eq hoff hids 0 (sound_of_fault?_eq_none hnone)
    refine ⟨hids, added, hadded, ?_⟩
    have hpointed : whenGiven scene.pointer (fun p => Stage.movePointer (.ofFloats p.x p.y))
        (s.stage.put added) =
          { s.stage.put added with
            pointer := scene.pointer.elim s.stage.pointer fun p => .ofFloats p.x p.y } := by
      cases scene.pointer <;> rfl
    simp only [apply_of_sound hnone, hplaced, hpointed]
    cases scene.heroMode with
    | false => rfl
    | true => exact congrArg _ (Stage.switchHero_of_off hoff)
  · intro hexact kind sprite
    unfold SceneSprite.placedSize
    cases sprite.size with
    | none => rfl
    | some size => exact hexact _ _

/-- A cat with a block, and a ball that is turned. -/
def pets : Scene :=
  let program : Json := .arr [.obj [("id", .str "f"), ("type", .str "when_flag_clicked")]]
  ⟨[⟨"cat", some ⟨100, 50⟩, none, some 0, program⟩, ⟨"Ball", none, some 90, none, .null⟩], false,
    some ⟨1, 2⟩⟩

/-- The two come onto an empty stage of real numbers, each as the scene has it; with a fish as a third one,
    none does. -/
theorem loads_completely_or_not_at_all_pets :
    let stage := (Session.new Config.default 0 : Session ℝ).stage
    (∃ cat ball : Slot ℝ,
      pets.apply stage = (.ok [1, 2],
        { stage with store := ⟨[cat, ball], 3, none⟩, pointer := .ofFloats 1 2 }) ∧
      cat.sprite.kind = .cat ∧ cat.sprite.position = .ofFloats 100 50 ∧
      cat.sprite.size = Scalar.ofFloat 0 ∧ cat.sprite.program.length = 1 ∧
      ball.sprite.kind = .ball ∧ ball.sprite.rotation = Scalar.ofFloat 90 ∧
      ball.sprite.size = SpriteKind.ball.defaultSize ∧ ball.sprite.program = []) ∧
    let faulty : Scene := { pets with sprites := pets.sprites ++ [⟨"fish", none, none, none, .null⟩] }
    (faulty.apply stage).1 = .error (.unknownKind 2 "fish") ∧ (faulty.apply stage).2 = stage := by
  intro stage
  have hnew : (Session.new Config.default 0 : Session ℝ).Reachable := ⟨Config.default, 0, [], rfl⟩
  constructor
  · obtain ⟨_, _, _, hplaced, hexact⟩ := loads_completely_or_not_at_all hnew pets
    obtain ⟨_, added, hadded, happly⟩ := hplaced (by decide) rfl
    obtain ⟨cat, hcat, hcatAs⟩ := hadded.placedAs 0 _ rfl
    obtain ⟨ball, hball, hballAs⟩ := hadded.placedAs 1 _ rfl
    obtain ⟨_, _, rfl⟩ := List.length_eq_two.1 hadded.length
    cases hcat
    cases hball
    refine ⟨cat, ball, happly, ?_⟩
    obtain ⟨kind, nodes, hkind, hnodes, hsprite⟩ := hcatAs.sprite
    obtain rfl : .cat = kind := Option.some.inj hkind
    obtain ⟨other, bare, hother, hbare, hturned⟩ := hballAs.sprite
    obtain rfl : .ball = other := Option.some.inj hother
    have hlength : nodes.length = 1 := by
      rcases hnodes with ⟨hnull, _⟩ | hlist | ⟨inner, hinner, _⟩
      · cases hnull
      · cases hlist
        rfl
      · cases hinner
    have hempty : bare = [] := by
      rcases hbare with ⟨_, hempty⟩ | hlist | ⟨inner, hinner, _⟩
      · exact hempty
      · cases hlist
      · cases hinner
    have hsize := hexact (fun a b => add_sub_cancel a b)
    simp only [hsprite, hturned, SceneSprite.placed, hsize, List.length_map, hlength, hempty]
    exact ⟨rfl, rfl, rfl, trivial, rfl, rfl, rfl, rfl⟩
  · intro faulty
    obtain ⟨hfails, hfault, hsame, _⟩ := loads_completely_or_not_at_all hnew faulty
    have hfish : faulty.fault? = some (.unknownKind 2 "fish") := by decide
    exact ⟨(hfails _).2 ((hfault _).1 hfish), hsame _ hfish⟩

end Scene

end SpriteStage
