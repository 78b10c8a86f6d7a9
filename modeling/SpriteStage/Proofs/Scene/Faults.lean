import SpriteStage.Scene.Basic

namespace SpriteStage

/-- The export holds a list of nodes: it is the list, or a workspace that has it under `blocks` twice. -/
def Export.Holds (workspace : Json) (nodes : List Json) : Prop :=
  workspace = .arr nodes ∨
    ∃ inner, workspace.get? "blocks" = some inner ∧ inner.get? "blocks" = some (.arr nodes)

namespace Json

theorem items?_eq_some_iff {j : Json} {items : List Json} : j.items? = some items ↔ j = .arr items := by
  cases j <;> simp [items?]

theorem isArray_iff {j : Json} : j.isArray = true ↔ ∃ items, j = .arr items := by
  simp only [isArray, Option.isSome_iff_exists, items?_eq_some_iff]

end Json

/-- Nodes can be taken out of a workspace exactly if it holds them in one of the shapes that the
    editor writes. -/
theorem Export.nodes?_eq_some_iff {workspace : Json} {nodes : List Json} :
    nodes? workspace = some nodes ↔ Holds workspace nodes := by
  have hinner : ((workspace.get? "blocks").bind (·.get? "blocks")).bind Json.items? = some nodes ↔
      ∃ inner, workspace.get? "blocks" = some inner ∧ inner.get? "blocks" = some (.arr nodes) := by
    simp only [Option.bind_eq_some_iff, Json.items?_eq_some_iff]
    constructor
    · rintro ⟨_, ⟨inner, hinner, hlist⟩, rfl⟩
      exact ⟨inner, hinner, hlist⟩
    · rintro ⟨inner, hinner, hlist⟩
      exact ⟨_, ⟨inner, hinner, hlist⟩, rfl⟩
  rw [Holds, ← hinner]
  cases workspace with
  | arr items => simp [nodes?, Json.get?, Json.entries?]
  | _ => simp [nodes?]

namespace SceneSprite

/-- The program of the sprite has these nodes; no program has none. -/
def HasNodes (s : SceneSprite) (nodes : List Json) : Prop :=
  s.program = .null ∧ nodes = [] ∨ Export.Holds s.program nodes

/-- There is nothing wrong with the sprite. -/
structure Sound (s : SceneSprite) : Prop where
  kind : ∃ kind, s.kind? = some kind
  program : ∃ nodes, s.HasNodes nodes

/-- The check of a program agrees with what is taken out of it. -/
theorem isProgram_iff {s : SceneSprite} : s.program.isProgram = true ↔ ∃ nodes, s.HasNodes nodes := by
  have hinner : ((s.program.get? "blocks").bind (·.get? "blocks")).any Json.isArray = true ↔
      ∃ nodes inner, s.program.get? "blocks" = some inner ∧ inner.get? "blocks" = some (.arr nodes) := by
    simp only [Option.any_eq_true, Option.bind_eq_some_iff, Json.isArray_iff]
    constructor
    · rintro ⟨_, ⟨inner, hinner, hlist⟩, nodes, rfl⟩
      exact ⟨nodes, inner, hinner, hlist⟩
    · rintro ⟨nodes, inner, hinner, hlist⟩
      exact ⟨_, ⟨inner, hinner, hlist⟩, nodes, rfl⟩
  simp only [HasNodes, Export.Holds, exists_or, ← hinner]
  cases s.program with
  | null => simp [Json.isProgram]
  | arr items => simp [Json.isProgram, Json.isArray, Json.items?]
  | _ => simp [Json.isProgram, Json.isArray, Json.items?]

/-- A sprite of a scene passes exactly if its kind is known and its program has nodes or is null. -/
theorem fault?_eq_none_iff {s : SceneSprite} (index : Nat) : s.fault? index = none ↔ s.Sound := by
  have hsound : s.Sound ↔ (∃ kind, s.kind? = some kind) ∧ s.program.isProgram = true := by
    rw [isProgram_iff]
    exact ⟨fun h => ⟨h.kind, h.program⟩, fun ⟨hkind, hprogram⟩ => ⟨hkind, hprogram⟩⟩
  rw [hsound]
  unfold fault?
  cases s.kind? <;> cases s.program.isProgram <;> simp

/-- The kind of a sprite is looked at before its program. -/
theorem fault?_eq_some_iff {s : SceneSprite} {index : Nat} {fault : SceneFault} :
    s.fault? index = some fault ↔ s.kind? = none ∧ .unknownKind index s.kindName = fault ∨
      (∃ kind, s.kind? = some kind) ∧ (¬ ∃ nodes, s.HasNodes nodes) ∧ .invalidProgram index = fault := by
  rw [← isProgram_iff]
  unfold fault?
  cases s.kind? <;> cases s.program.isProgram <;> simp

end SceneSprite

namespace Scene

/-- The fault is that of the first sprite with one. -/
theorem firstFault?_eq_some_iff {index : Nat} {sprites : List SceneSprite} {fault : SceneFault} :
    firstFault? index sprites = some fault ↔ ∃ i s, sprites[i]? = some s ∧
      s.fault? (index + i) = some fault ∧ ∀ earlier ∈ sprites.take i, earlier.Sound := by
  induction sprites generalizing index with
  | nil => simp [firstFault?]
  | cons first rest ih =>
    rw [firstFault?, Option.or_eq_some_iff, SceneSprite.fault?_eq_none_iff, ih]
    constructor
    · rintro (hfirst | ⟨hsound, i, s, hs, hfault, hearlier⟩)
      · exact ⟨0, first, rfl, hfirst, by simp⟩
      · refine ⟨i + 1, s, hs, by rwa [← Nat.add_assoc, Nat.add_right_comm], ?_⟩
        rw [List.take_succ_cons, List.forall_mem_cons]
        exact ⟨hsound, hearlier⟩
    · rintro ⟨i, s, hs, hfault, hearlier⟩
      cases i with
      | zero =>
        rw [List.getElem?_cons_zero, Option.some.injEq] at hs
        exact Or.inl (hs ▸ hfault)
      | succ i =>
        rw [List.take_succ_cons, List.forall_mem_cons] at hearlier
        refine Or.inr ⟨hearlier.1, i, s, hs, ?_, hearlier.2⟩
        rwa [Nat.add_right_comm, Nat.add_assoc]

/-- What is wrong with a scene first of all. -/
def FirstFault (scene : Scene) : SceneFault → Prop
  | .noSprites => scene.sprites = []
  | .unknownKind index name => ∃ s, scene.sprites[index]? = some s ∧ s.kindName = name ∧
      s.kind? = none ∧ ∀ earlier ∈ scene.sprites.take index, earlier.Sound
  | .invalidProgram index => ∃ s, scene.sprites[index]? = some s ∧ (∃ kind, s.kind? = some kind) ∧
      (¬ ∃ nodes, s.HasNodes nodes) ∧ ∀ earlier ∈ scene.sprites.take index, earlier.Sound

/-- The fault of a scene is that of its first sprite with one. -/
theorem fault?_eq_some_iff {scene : Scene} {fault : SceneFault} :
    scene.fault? = some fault ↔ scene.FirstFault fault := by
  unfold fault?
  by_cases hnone : scene.sprites = []
  case pos => cases fault <;> simp [hnone, FirstFault]
  case neg =>
    simp only [List.isEmpty_iff, hnone, if_false, firstFault?_eq_some_iff, Nat.zero_add,
      SceneSprite.fault?_eq_some_iff]
    cases fault with
    | noSprites => simp [FirstFault, hnone]
    | unknownKind index name =>
      constructor
      · rintro ⟨i, s, hs, ⟨hkind, hfault⟩ | ⟨_, _, hfault⟩, hearlier⟩
        · cases hfault
          exact ⟨s, hs, rfl, hkind, hearlier⟩
        · cases hfault
      · rintro ⟨s, hs, rfl, hkind, hearlier⟩
        exact ⟨index, s, hs, Or.inl ⟨hkind, rfl⟩, hearlier⟩
    | invalidProgram index =>
      constructor
      · rintro ⟨i, s, hs, ⟨_, hfault⟩ | ⟨hkind, hprogram, hfault⟩, hearlier⟩
        · cases hfault
        · cases hfault
          exact ⟨s, hs, hkind, hprogram, hearlier⟩
      · rintro ⟨s, hs, hkind, hprogram, hearlier⟩
        exact ⟨index, s, hs, Or.inr ⟨hkind, hprogram, rfl⟩, hearlier⟩

/-- In a scene that passes every sprite does. -/
theorem sound_of_fault?_eq_none {scene : Scene} (hnone : scene.fault? = none) :
    ∀ s ∈ scene.sprites, s.Sound := by
  have hall (index : Nat) (sprites : List SceneSprite) (hnone : firstFault? index sprites = none) :
      ∀ s ∈ sprites, s.Sound := by
    induction sprites generalizing index with
    | nil => exact nofun
    | cons first rest ih =>
      rw [firstFault?, Option.or_eq_none_iff, SceneSprite.fault?_eq_none_iff] at hnone
      exact List.forall_mem_cons.2 ⟨hnone.1, ih _ hnone.2⟩
  unfold fault? at hnone
  split at hnone
  case isTrue => cases hnone
  case isFalse => exact hall 0 scene.sprites hnone

end Scene

end SpriteStage
