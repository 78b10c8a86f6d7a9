import SpriteStage.Proofs.Program.Reading
import SpriteStage.Proofs.Program.Unrolling

namespace SpriteStage

namespace Block

/-- A count that is missing stands for one, and a value that is at least one is taken as it is. -/
theorem CountsUp.repeatTimes {b : Block} (h : b.CountsUp) :
    Number.isNaN b.repeatTimes = false ∧ Number.less b.repeatTimes 1 = false := by
  rw [h.repeatTimes_eq]
  cases hvalue : b.field? "TIMES" with
  | none => decide +kernel
  | some value => exact h value hvalue

/-- A number is read from a field whose value is one; waits and repeats have one to fall back on. -/
theorem isNaN_reading {b : Block} {kind : BlockKind} {spec : FieldSpec} (hspec : spec ∈ kind.valueFields)
    (hpresent : (b.field? spec.name).isSome = true ∨ kind = .repeatAbove)
    (hvalues : ∀ value ∈ b.field? spec.name, Number.isNaN value.number = false) :
    Number.isNaN (b.reading kind spec.name) = false := by
  have hone : Number.isNaN 1 = false := by decide +kernel
  have hnumber (hkind : kind ≠ .repeatAbove) : Number.isNaN (b.number spec.name) = false := by
    obtain ⟨value, hvalue⟩ := Option.isSome_iff_exists.1 (hpresent.resolve_right hkind)
    rw [number, hvalue]
    exact hvalues value hvalue
  cases kind with
  | wait | repeatAbove =>
    rw [List.mem_singleton.1 hspec] at hvalues
    simp only [reading, waitSeconds, repeatTimes]
    split
    case h_1 => exact hone
    case h_2 value hvalue =>
      split
      · exact hvalues value hvalue
      · exact hone
  | _ => exact hnumber (by decide)

end Block

/-- The block is of a kind that the editor offers and has a value in every field that is declared for it,
    and what is read from a numeric field is a number. Only a repeat may lack its count. -/
structure Block.Legible (b : Block) (kind : BlockKind) : Prop where
  known : b.kind? = some kind
  present : ∀ spec ∈ kind.valueFields,
    (b.field? spec.name).isSome = true ∨ kind = .repeatAbove ∧ spec.name = "TIMES"
  number : ∀ spec ∈ kind.valueFields, spec.isNumber = true →
    Number.isNaN (b.reading kind spec.name) = false
  countsUp : kind = .repeatAbove → b.CountsUp

/-- A block that holds what is declared is legible. -/
theorem Block.Filled.legible {b : Block} (h : b.Filled) : ∃ kind, b.Legible kind := by
  have hcount := h.countsUp
  obtain ⟨kind, hkind, hfills⟩ := h
  refine ⟨kind, hkind, fun spec hspec => (hfills spec hspec).present, ?_, ?_⟩
  · intro spec hspec hnumber
    obtain ⟨hpresent, hvalues⟩ := hfills spec hspec
    refine isNaN_reading hspec (hpresent.imp_right And.left) ?_
    intro value hvalue
    exact (hvalues hnumber value hvalue).1
  · rintro rfl
    exact hcount (is_iff_kind?.2 hkind)

namespace Block

/-- What can be read from a block depends on its content. -/
theorem Legible.congr {a b : Block} {kind : BlockKind} (h : a.Legible kind)
    (hcontent : b.content = a.content) : b.Legible kind := by
  obtain ⟨htype, hfields⟩ := Prod.mk.inj hcontent
  have hfield (name : String) : b.field? name = a.field? name := by rw [field?, field?, hfields]
  refine ⟨(kind?_congr htype).trans h.known, ?_, ?_, ?_⟩
  · intro spec hspec
    rw [hfield]
    exact h.present spec hspec
  · intro spec hspec hnumber
    rw [reading_congr hspec (hfield spec.name)]
    exact h.number spec hspec hnumber
  · intro hrepeat value hvalue
    rw [hfield] at hvalue
    exact h.countsUp hrepeat value hvalue

end Block

/-- Every block of a clean program is legible. -/
theorem Program.legible_of_isClean {program : Program} (hclean : program.isClean = true) {c : Chain}
    (hc : c ∈ program) : ∀ b ∈ c.toList, ∃ kind, b.Legible kind :=
  fun b hb => ((filled_of_isClean hclean hc).1 b hb).legible

end SpriteStage
