import SpriteStage.Engine.Effect

namespace SpriteStage.Block

/-- The number that is read from a numeric field of a block of this kind. -/
def reading (b : Block) (kind : BlockKind) (name : String) : Float :=
  match kind with
  | .wait => b.waitSeconds
  | .repeatAbove => b.repeatTimes
  | _ => b.number name

/-- Taken as blocks of this kind, the two have the same numbers in the numeric fields and the same texts
    in the others. -/
def ReadAlike (a b : Block) (kind : BlockKind) : Prop :=
  ∀ spec ∈ kind.valueFields,
    if spec.isNumber then a.reading kind spec.name = b.reading kind spec.name
    else a.text spec.name = b.text spec.name

variable {α : Type} {a b : Block}

namespace ReadAlike

variable {kind : BlockKind}

/-- Blocks that read alike have the same numbers in the numeric fields of their kind. -/
theorem number (h : a.ReadAlike b kind) (name : String)
    (hfield : (name, true) ∈ kind.valueFields.map fun spec => (spec.name, spec.isNumber)) :
    a.reading kind name = b.reading kind name := by
  obtain ⟨spec, hspec, hpair⟩ := List.mem_map.1 hfield
  obtain ⟨rfl, hnumber⟩ := Prod.mk.inj hpair
  simpa [hnumber] using h spec hspec

/-- Blocks that read alike have the same texts in the other fields of their kind. -/
theorem text (h : a.ReadAlike b kind) (name : String)
    (hfield : (name, false) ∈ kind.valueFields.map fun spec => (spec.name, spec.isNumber)) :
    a.text name = b.text name := by
  obtain ⟨spec, hspec, hpair⟩ := List.mem_map.1 hfield
  obtain ⟨rfl, hnumber⟩ := Prod.mk.inj hpair
  simpa [hnumber] using h spec hspec

end ReadAlike

/-- Blocks of one type are of one kind. -/
theorem kind?_congr (htype : a.typeId = b.typeId) : a.kind? = b.kind? := by
  rw [kind?, kind?, htype]

theorem text_congr {name : String} (hfield : a.field? name = b.field? name) :
    a.text name = b.text name := by
  rw [text, text, hfield]

/-- A reading depends on the one declared field. -/
theorem reading_congr {kind : BlockKind} {spec : FieldSpec} (hspec : spec ∈ kind.valueFields)
    (hfield : a.field? spec.name = b.field? spec.name) :
    a.reading kind spec.name = b.reading kind spec.name := by
  have hnumber : a.number spec.name = b.number spec.name := by rw [number, number, hfield]
  cases kind with
  | wait =>
    rw [List.mem_singleton.1 hspec] at hfield
    have hseconds : a.field? "seconds" = b.field? "seconds" := hfield
    simp only [reading, waitSeconds, hseconds]
  | repeatAbove =>
    rw [List.mem_singleton.1 hspec] at hfield
    have htimes : a.field? "TIMES" = b.field? "TIMES" := hfield
    simp only [reading, repeatTimes, htimes]
  | _ => exact hnumber

/-- Blocks with the same message put up the same bubble. -/
theorem speak_congr (hmessage : a.text "message" = b.text "message") (durationMs : Float)
    (isThought : Bool) (s : Sprite α) :
    a.speak durationMs isThought s = b.speak durationMs isThought s := by
  rw [speak, speak, hmessage]

variable [Scalar α]

theorem scalar_congr {name : String} (hnumber : a.number name = b.number name) :
    (a.scalar name : α) = b.scalar name := by
  rw [scalar, scalar, hnumber]

/-- Blocks with the same two numbers lead to the same place. -/
theorem target_congr (hx : a.number "x_position" = b.number "x_position")
    (hy : a.number "y_position" = b.number "y_position") : (a.target : Position α) = b.target := by
  rw [target, target, scalar_congr hx, scalar_congr hy]

/-- The effect of a block depends on its type and on what is read from it. -/
theorem dispatch_congr_of_readAlike (htype : a.typeId = b.typeId)
    (halike : ∀ kind, a.kind? = some kind → a.ReadAlike b kind) (s : Sprite α) (context : Context α) :
    a.dispatch s context = b.dispatch s context := by
  have hkind := kind?_congr htype
  unfold dispatch
  rw [← hkind]
  cases hknown : a.kind? with
  | none => rfl
  | some kind =>
    have h := halike kind hknown
    cases kind with
    | whenFlagClicked | goToRandom => rfl
    | goTo =>
      have htarget := target_congr (α := α) (h.number "x_position" (by decide))
        (h.number "y_position" (by decide))
      simp only [htarget]
    | glide =>
      have htarget := target_congr (α := α) (h.number "x_position" (by decide))
        (h.number "y_position" (by decide))
      have hseconds : a.number "seconds" = b.number "seconds" := h.number "seconds" (by decide)
      simp only [htarget, hseconds]
    | move | setX =>
      have hx := scalar_congr (α := α) (h.number "x_position" (by decide))
      simp only [hx]
    | setY =>
      have hy := scalar_congr (α := α) (h.number "y_position" (by decide))
      simp only [hy]
    | changeXBy =>
      have hdelta := scalar_congr (α := α) (h.number "delta_x" (by decide))
      simp only [hdelta]
    | changeYBy =>
      have hdelta := scalar_congr (α := α) (h.number "delta_y" (by decide))
      simp only [hdelta]
    | clockwise | anticlockwise =>
      have hangle := scalar_congr (α := α) (h.number "angle" (by decide))
      simp only [hangle]
    | changeSize =>
      have hsize := scalar_congr (α := α) (h.number "size" (by decide))
      simp only [hsize]
    | pointTowards =>
      have htarget := h.text "target" (by decide)
      simp only [htarget]
    | say | think =>
      have hspeak := speak_congr (α := α) (h.text "message" (by decide))
      simp only [hspeak]
    | sayForSeconds | thinkForSeconds =>
      have hspeak := speak_congr (α := α) (h.text "message" (by decide))
      have hseconds : a.number "seconds" = b.number "seconds" := h.number "seconds" (by decide)
      simp only [hspeak, hseconds]
    | wait =>
      have hseconds : a.waitSeconds = b.waitSeconds := h.number "seconds" (by decide)
      simp only [hseconds]
    | repeatAbove =>
      have htimes : a.repeatTimes = b.repeatTimes := h.number "TIMES" (by decide)
      simp only [htimes]

/-- The effect of a block depends on its type and on the fields that are declared for it. -/
theorem dispatch_congr (htype : a.typeId = b.typeId)
    (hfields : ∀ kind, a.kind? = some kind →
      ∀ spec ∈ kind.valueFields, a.field? spec.name = b.field? spec.name)
    (s : Sprite α) (context : Context α) : a.dispatch s context = b.dispatch s context := by
  refine dispatch_congr_of_readAlike htype ?_ s context
  intro kind hkind spec hspec
  have hfield := hfields kind hkind spec hspec
  split
  · exact reading_congr hspec hfield
  · exact text_congr hfield

/-- Only a repeat asks for copies, and it asks for as many as it counts, whatever its sprite and the
    stage around it are like. -/
theorem dispatch_eq_repeatAbove_iff (b : Block) (s : Sprite α) (context : Context α) (times : Float) :
    b.dispatch s context = .repeatAbove times ↔ b.kind? = some .repeatAbove ∧ times = b.repeatTimes := by
  unfold dispatch
  cases hknown : b.kind? with
  | none => simp
  | some kind =>
    cases kind with
    | repeatAbove => simp [eq_comm]
    | pointTowards =>
      dsimp only
      split <;> simp
    | _ => simp

end SpriteStage.Block
