import SpriteStage.Proofs.Program.Document
import SpriteStage.Sprite.Codec

namespace SpriteStage

namespace Source

/-- An object that has just the keys of a record, once each, gives it all of its values. -/
theorem record?_of_keys {names : List String} {entries : Entries Source}
    (hkeys : entries.map Prod.fst = names) (hnodup : names.Nodup) :
    record? names (.obj entries) = some ⟨false, entries⟩ := by
  have hnames : ∀ entry ∈ entries, entry.1 ∈ names := fun entry hentry =>
    hkeys ▸ List.mem_map_of_mem hentry
  rw [record?, List.filter_eq_self.2]
  · simp only [hkeys, if_pos hnodup]
  · intro entry hentry
    simpa using hnames entry hentry

/-- A list is read back if its items are. -/
theorem list?_map {β : Type} {read : Source → Option β} {write : β → Source} {xs : List β}
    (hread : ∀ x ∈ xs, read (write x) = some x) : list? read (.arr (xs.map write)) = some xs := by
  rw [list?]
  induction xs with
  | nil => rfl
  | cons x rest ih =>
    have hrest := ih fun other hother => hread other (List.mem_cons_of_mem _ hother)
    rw [List.map_cons, List.mapM_cons, hread x List.mem_cons_self, hrest]
    rfl

/-- A natural number below the limit is read back. -/
theorem natural?_natCast {limit n : Nat} (hn : n < limit) : natural? limit (.int n) = some n := by
  rw [natural?, if_pos ⟨Int.natCast_nonneg n, by exact_mod_cast hn⟩, Int.toNat_natCast]

/-- A required field is read if what stands there can be read. -/
theorem required?_of_get? {β : Type} {r : Record} {name : String} {read : Source → Option β}
    {document : Source} {x : β} (hget : r.values.get? name = some document) (hread : read document = some x) :
    r.required? name read = some x := by
  rw [Record.required?, hget, Option.bind_some, hread]

end Source

/-- A finite number is written down as it is. -/
theorem Json.ofFloat_of_isFinite {x : Float} (hx : Number.isFinite x = true) : ofFloat x = .double x :=
  if_pos hx

theorem Json.wellFormed_ofFloat (x : Float) : (ofFloat x).WellFormed := by
  unfold ofFloat
  split
  · exact .double x
  · exact .null

/-- A position with finite coordinates is read back. -/
theorem Position.ofSource?_toSource {p : Position Float} (hx : Number.isFinite p.x = true)
    (hy : Number.isFinite p.y = true) : Position.ofSource? p.toJson.toSource = some p := by
  rw [toJson, Json.ofFloat_of_isFinite hx, Json.ofFloat_of_isFinite hy]
  rfl

/-- A bubble with a finite duration is read back. -/
theorem Speech.ofSource?_toSource {s : Speech} (hduration : Number.isFinite s.durationMs = true) :
    Speech.ofSource? s.toJson.toSource = some s := by
  rw [toJson, Json.ofFloat_of_isFinite hduration]
  rfl

/-- A glide with a finite duration is read back. -/
theorem Animation.ofSource?_toSource {a : Animation} (hduration : Number.isFinite a.durationMs = true) :
    Animation.ofSource? a.toJson.toSource = some a := by
  rw [toJson, Json.ofFloat_of_isFinite hduration]
  rfl

/-- A kind of sprites is read back from its name. -/
theorem SpriteKind.ofSource?_name (kind : SpriteKind) : ofSource? (.str kind.name) = some kind := by
  cases kind <;> rfl

/-- A program is read back if its chains can be stored. -/
theorem Program.list?_toSource {program : Program} (hprogram : ∀ c ∈ program, Storable c.toList) :
    Source.list? Chain.ofSource? program.toJson.toSource = some program := by
  rw [toJson, Json.toSource, Json.itemsToSource_eq, List.map_map]
  exact Source.list?_map fun c hc => (hprogram c hc).ofSource?_toSource

namespace Sprite

open Source

/-- The numbers that a sprite is made of. -/
def numbers (s : Sprite Float) : List Float :=
  [s.position.x, s.position.y, s.rotation, s.size, s.speech.durationMs]
    ++ (s.animation.map (·.durationMs)).toList

/-- A missing animation is read back as missing. -/
theorem nullable?_animation {animation : Option Animation}
    (hfinite : ∀ a ∈ animation, Number.isFinite a.durationMs = true) :
    Source.nullable? Animation.ofSource? (animation.elim .null Animation.toJson).toSource =
      some animation := by
  cases animation with
  | none => rfl
  | some a =>
    have hread := Animation.ofSource?_toSource (hfinite a rfl)
    rw [Animation.toJson, Json.toSource] at hread
    rw [Option.elim_some, Animation.toJson, Json.toSource, Source.nullable?, hread]
    · rfl
    · intro hnull
      cases hnull

/-- A sprite with finite numbers and a program that can be stored is read back. -/
theorem ofSource?_toSource {s : Sprite Float} (hid : s.id < Nat.pow 2 32)
    (hfinite : ∀ x ∈ s.numbers, Number.isFinite x = true)
    (hprogram : ∀ c ∈ s.program, Storable c.toList) : ofSource? s.toJson.toSource = some s := by
  obtain ⟨hx, hy, hrotation, hsize, hduration, hanimation⟩ :
      Number.isFinite s.position.x = true ∧ Number.isFinite s.position.y = true ∧
        Number.isFinite s.rotation = true ∧ Number.isFinite s.size = true ∧
        Number.isFinite s.speech.durationMs = true ∧
        ∀ a ∈ s.animation, Number.isFinite a.durationMs = true := by
    simpa [numbers, or_imp, forall_and] using hfinite
  obtain ⟨r, hrecord, hid, hkind, hposition, hrotation, hsize, hspeech, hanimation, hrunning, hprogram⟩ :
      ∃ r, s.toJson.toSource.record? fieldNames = some r ∧
        r.required? "id" (Source.natural? (Nat.pow 2 32)) = some s.id ∧
        r.required? "type" SpriteKind.ofSource? = some s.kind ∧
        r.required? "position" Position.ofSource? = some s.position ∧
        r.required? "rotation" Source.float? = some s.rotation ∧
        r.required? "size" Source.float? = some s.size ∧
        r.required? "text" Speech.ofSource? = some s.speech ∧
        r.nullable? "active_animation" Animation.ofSource? = some s.animation ∧
        r.required? "is_running_program" Source.bool? = some s.isRunning ∧
        r.required? "blocks" (Source.list? Chain.ofSource?) = some s.program := by
    rw [toJson, Json.ofFloat_of_isFinite hrotation, Json.ofFloat_of_isFinite hsize]
    exact ⟨_, Source.record?_of_keys rfl (by decide), required?_of_get? rfl (Source.natural?_natCast hid),
      required?_of_get? rfl s.kind.ofSource?_name,
      required?_of_get? rfl (Position.ofSource?_toSource hx hy), rfl, rfl,
      required?_of_get? rfl (Speech.ofSource?_toSource hduration), nullable?_animation hanimation, rfl,
      required?_of_get? rfl (Program.list?_toSource hprogram)⟩
  rw [ofSource?, hrecord]
  simp only [Option.bind_eq_bind, Option.bind_some, hid, hkind, hposition, hrotation, hsize, hspeech,
    hanimation, hrunning, hprogram]
  rfl

/-- The document of a sprite whose program can be stored is well-formed. -/
theorem wellFormed_toJson {s : Sprite Float} (hprogram : ∀ c ∈ s.program, Storable c.toList) :
    s.toJson.WellFormed := by
  have hanimation : (s.animation.elim .null Animation.toJson).WellFormed := by
    cases s.animation <;> simp [Animation.toJson, Json.wellFormed_ofFloat]
  have hblocks : (Program.toJson s.program).WellFormed := by
    refine .arr ?_
    intro item hitem
    obtain ⟨c, hc, rfl⟩ := List.mem_map.1 hitem
    exact (hprogram c hc).wellFormed_toJson
  simp [toJson, Position.toJson, Speech.toJson, Json.wellFormed_ofFloat, hanimation, hblocks]

end Sprite

/-- What is written down is read back as it was: the chain that any node starts, with its successors and
    bodies and with its fields and the keys of the editor in order, and any sprite with a 32-bit id and
    finite numbers whose program was read from nodes. In the documents no key is repeated. -/
theorem documents_are_read_back :
    (∀ node : Json, node.WellFormed → (Chain.ofNode node).toJson.WellFormed ∧
      Chain.ofSource? (Chain.ofNode node).toJson.toSource = some (Chain.ofNode node)) ∧
    ∀ (s : Sprite Float) (nodes : List Json), (∀ node ∈ nodes, node.WellFormed) →
      s.program = Program.ofNodes nodes → s.id < Nat.pow 2 32 →
      (∀ x ∈ s.numbers, Number.isFinite x = true) →
      s.toJson.WellFormed ∧ Sprite.ofSource? s.toJson.toSource = some s := by
  refine ⟨fun node hnode => ?_, fun s nodes hnodes hprogram hid hfinite => ?_⟩
  · have hstorable := storable_ofNode hnode
    exact ⟨hstorable.wellFormed_toJson, hstorable.ofSource?_toSource⟩
  · have hstorable : ∀ c ∈ s.program, Storable c.toList := by
      intro c hc
      rw [hprogram] at hc
      obtain ⟨node, hnode, rfl⟩ := List.mem_map.1 hc
      exact storable_ofNode (hnodes node hnode)
    exact ⟨Sprite.wellFormed_toJson hstorable, Sprite.ofSource?_toSource hid hfinite hstorable⟩

/-- A ball in the middle of a glide, thinking, with a loop as its program. -/
def gliding : Sprite Float where
  id := 7
  kind := .ball
  position := ⟨-12.5, 30⟩
  rotation := 450
  size := -10
  speech := ⟨"Hmm...", 2000, true⟩
  animation := some ⟨1000⟩
  isRunning := true
  program := Program.ofNodes [loopedNode, .str "stray"]

theorem documents_are_read_back_gliding : loopedNode.WellFormed ∧
    Chain.ofSource? (Chain.ofNode loopedNode).toJson.toSource = some (Chain.ofNode loopedNode) ∧
    Sprite.ofSource? gliding.toJson.toSource = some gliding := by
  have hnode : loopedNode.WellFormed := by
    simp [loopedNode, glideNode, sayNode, waitNode, Export.node]
  have hnodes : ∀ node ∈ [loopedNode, .str "stray"], node.WellFormed := by
    simp [hnode]
  have hfinite : ∀ x ∈ gliding.numbers, Number.isFinite x = true := by decide +kernel
  exact ⟨hnode, (documents_are_read_back.1 loopedNode hnode).2,
    (documents_are_read_back.2 gliding _ hnodes rfl (by decide) hfinite).2⟩

end SpriteStage
