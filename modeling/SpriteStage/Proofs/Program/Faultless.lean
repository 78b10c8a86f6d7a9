import Mathlib.Data.Finset.Card
import SpriteStage.Program.Lint

namespace SpriteStage

namespace Block

mutual

/-- The chains inside a block: the one that it encloses, which may be empty, and those inside its blocks. -/
def enclosed : Block → List (List Block)
  | ⟨_, _, _, body, _⟩ => body :: enclosedAll body

def enclosedAll : List Block → List (List Block)
  | [] => []
  | b :: rest => b.enclosed ++ enclosedAll rest

end

/-- The block holds what is declared for a field: a value, and a number within the bounds if a number is
    declared. A repeat may lack its count. -/
structure Fills (b : Block) (kind : BlockKind) (spec : FieldSpec) : Prop where
  present : (b.field? spec.name).isSome = true ∨ kind = .repeatAbove ∧ spec.name = "TIMES"
  number : spec.isNumber = true → ∀ value ∈ b.field? spec.name, Number.isNaN value.number = false ∧
    (∀ min ∈ spec.min?, Number.less value.number min = false) ∧
    ∀ max ∈ spec.max?, Number.less max value.number = false

/-- The block is of a kind that the editor offers, and it holds what is declared for its fields. -/
def Filled (b : Block) : Prop :=
  ∃ kind, b.kind? = some kind ∧ ∀ spec ∈ kind.valueFields, b.Fills kind spec

/-- The block is a hat. -/
def isHat (b : Block) : Bool :=
  b.kind?.any fun kind => !kind.acceptsPrevious

end Block

namespace Program

/-- All chains of a program, those inside blocks included. -/
def chains (program : Program) : List (List Block) :=
  program.flatMap fun c => c.toList :: Block.enclosedAll c.toList

/-- All blocks of a program. -/
def blocks (program : Program) : List Block :=
  program.chains.flatten

end Program

def Fault.isDuplicate : Fault → Bool
  | duplicateId => true
  | _ => false

/-- A text begins like its front. -/
theorem append_ne_of_head? {front rest text : String} (hfront : front.toList ≠ [])
    (hhead : front.toList.head? ≠ text.toList.head?) : front ++ rest ≠ text := by
  rintro rfl
  apply hhead
  rw [String.toList_append, List.head?_append_of_ne_nil _ hfront]

/-- The message about an id that was met before is given for no other fault. -/
theorem Fault.message_eq_iff (fault : Fault) :
    fault.message = "Duplicate block id." ↔ fault.isDuplicate = true := by
  constructor
  · intro hmessage
    unfold message at hmessage
    cases fault with
    | duplicateId => rfl
    | nothingToRepeat => exact absurd hmessage (by decide)
    | _ =>
      simp only [String.append_assoc] at hmessage
      exact absurd hmessage (append_ne_of_head? (by decide) (by decide))
  · intro hduplicate
    cases fault with
    | duplicateId => rfl
    | _ => cases hduplicate

namespace Lint

/-- There is nothing wrong with a value if it is a number within the bounds of its field. -/
theorem valueFaults_eq_nil_iff {spec : FieldSpec} {value : Json} :
    valueFaults spec value = [] ↔ Number.isNaN value.number = false ∧
      (∀ min ∈ spec.min?, Number.less value.number min = false) ∧
      ∀ max ∈ spec.max?, Number.less max value.number = false := by
  unfold valueFaults
  dsimp only
  cases Number.isNaN value.number with
  | true => simp
  | false => simp [Option.filter_eq_none_iff]

/-- There is nothing wrong with a field if the block fills it. -/
theorem fieldFaults_eq_nil_iff {b : Block} {kind : BlockKind} {spec : FieldSpec}
    (hspec : spec ∈ kind.valueFields) : fieldFaults b kind spec = [] ↔ b.Fills kind spec := by
  have hcount : kind = .repeatAbove → spec.name = "TIMES" := by
    rintro rfl
    rw [List.mem_singleton.1 hspec]
    rfl
  unfold fieldFaults
  cases hvalue : b.field? spec.name with
  | none =>
    constructor
    · intro hnone
      have hrepeat : kind = .repeatAbove := by simpa using hnone
      exact ⟨Or.inr ⟨hrepeat, hcount hrepeat⟩, by simp [hvalue]⟩
    · rintro ⟨hpresent, _⟩
      simpa [hvalue, and_iff_left_of_imp hcount] using hpresent
  | some value =>
    constructor
    · intro hnone
      refine ⟨Or.inl (by rw [hvalue]; rfl), ?_⟩
      intro hnumber other hother
      rw [hvalue, Option.mem_some_iff] at hother
      subst hother
      simp only [hnumber, if_true] at hnone
      exact valueFaults_eq_nil_iff.1 hnone
    · rintro ⟨_, hnumber⟩
      dsimp only
      split
      case isTrue hdeclared => exact valueFaults_eq_nil_iff.2 (hnumber hdeclared value hvalue)
      case isFalse => rfl

/-- A block is without fault in its place if it is filled, and a hat or a repeat only where one may stand. -/
theorem ownFaults_eq_nil_iff {first : Bool} {b : Block} :
    ownFaults first b = [] ↔ b.Filled ∧ (first = false → b.isHat = false) ∧
      (first = true → b.is .repeatAbove = false) := by
  rw [← Bool.not_eq_true (b.is _), Block.is_iff_kind?]
  unfold ownFaults Block.Filled Block.isHat
  cases b.kind? with
  | none => simp
  | some kind =>
    have hfields : kind.valueFields.flatMap (fieldFaults b kind) = [] ↔
        ∀ spec ∈ kind.valueFields, b.Fills kind spec := by
      rw [List.flatMap_eq_nil_iff]
      exact forall₂_congr fun spec hspec => fieldFaults_eq_nil_iff hspec
    cases first <;> simp [hfields, and_comm]

/-- A fault of a value is no repeated id. -/
theorem isDuplicate_of_mem_valueFaults {spec : FieldSpec} {value : Json} {fault : Fault}
    (hfault : fault ∈ valueFaults spec value) : fault.isDuplicate = false := by
  unfold valueFaults at hfault
  dsimp only at hfault
  split at hfault
  case isTrue =>
    rw [List.mem_singleton.1 hfault]
    rfl
  case isFalse =>
    simp only [List.mem_append, Option.mem_toList, Option.map_eq_some_iff] at hfault
    rcases hfault with ⟨min, _, rfl⟩ | ⟨max, _, rfl⟩ <;> rfl

/-- None of the faults of a block is that its id was met before. -/
theorem isDuplicate_of_mem_ownFaults {first : Bool} {b : Block} {fault : Fault}
    (hfault : fault ∈ ownFaults first b) : fault.isDuplicate = false := by
  unfold ownFaults at hfault
  split at hfault
  case h_1 =>
    rw [List.mem_singleton.1 hfault]
    rfl
  case h_2 kind _ =>
    simp only [List.mem_append, List.mem_ite_nil_right, List.mem_singleton, List.mem_flatMap] at hfault
    rcases hfault with (⟨_, rfl⟩ | ⟨_, rfl⟩) | ⟨spec, _, hfield⟩
    · rfl
    · rfl
    · unfold fieldFaults at hfield
      split at hfield
      case h_1 =>
        split at hfield
        · cases hfield
        · rw [List.mem_singleton.1 hfield]
          rfl
      case h_2 =>
        split at hfield
        · exact isDuplicate_of_mem_valueFaults hfield
        · cases hfield

namespace Report

/-- How many warnings are about an id that was met before. -/
def duplicates (r : Report) : Nat :=
  r.warnings.countP (·.fault.isDuplicate)

/-- The report has no other warning. -/
def Quiet (r : Report) : Prop :=
  ∀ w ∈ r.warnings, w.fault.isDuplicate = true

/-- Nothing is reported exactly if no id was repeated and no block had a fault of its own. -/
theorem eq_nil_iff {r : Report} : r.warnings = [] ↔ r.duplicates = 0 ∧ r.Quiet := by
  rw [duplicates, List.countP_eq_zero, Quiet, ← forall₂_and, List.eq_nil_iff_forall_not_mem]
  exact forall₂_congr fun w _ => by simp

end Report

/-- The blocks of a chain from one on, which may be the first, are without fault in their places. -/
def Fine (first : Bool) : List Block → Prop
  | [] => True
  | b :: rest => ownFaults first b = [] ∧ Fine false rest

/-- Behind the first place a chain is fine if its blocks are filled and none is a hat. -/
theorem fine_false_iff {chain : List Block} :
    Fine false chain ↔ ∀ b ∈ chain, b.Filled ∧ b.isHat = false := by
  induction chain with
  | nil => simp [Fine]
  | cons b rest ih => simp [Fine, ih, ownFaults_eq_nil_iff]

/-- From the first place on a chain is fine if its blocks are filled, only the first is a hat and
    that is no repeat. -/
theorem fine_true_iff {chain : List Block} : Fine true chain ↔ (∀ b ∈ chain, b.Filled) ∧
    (∀ b ∈ chain.tail, b.isHat = false) ∧ ∀ b ∈ chain.head?, b.is .repeatAbove = false := by
  cases chain with
  | nil => simp [Fine]
  | cons b rest =>
    simp [Fine, fine_false_iff, ownFaults_eq_nil_iff, forall_and]
    tauto

/-- What a check adds to a report. It meets some blocks and notes their ids, with one warning for each that
    was met before, and it finds something else unless all is fine. -/
structure Adds (r after : Report) (met : List Block) (fine : Prop) : Prop where
  seen : ∀ id, id ∈ after.seen ↔ id ∈ r.seen ∨ id ∈ met.map (·.id)
  nodup : r.seen.Nodup → after.seen.Nodup
  count : after.seen.length + after.duplicates = r.seen.length + r.duplicates + met.length
  quiet : after.Quiet ↔ r.Quiet ∧ fine

namespace Adds

variable {r middle after : Report} {met met' : List Block} {fine fine' : Prop}

theorem refl (r : Report) : Adds r r [] True :=
  ⟨by simp, id, rfl, by simp⟩

/-- Meeting some blocks and then others is meeting all of them. -/
theorem trans (hfirst : Adds r middle met fine) (hlast : Adds middle after met' fine') :
    Adds r after (met ++ met') (fine ∧ fine') := by
  have hcount := hfirst.count
  have hcount' := hlast.count
  refine ⟨?_, fun hnodup => hlast.nodup (hfirst.nodup hnodup), ?_, ?_⟩
  · intro id
    rw [hlast.seen, hfirst.seen, List.map_append, List.mem_append, or_assoc]
  · rw [List.length_append]
    omega
  · rw [hlast.quiet, hfirst.quiet, and_assoc]

/-- The order in which blocks are met does not count. -/
theorem congr (h : Adds r after met fine) (hmet : met.Perm met') (hfine : fine ↔ fine') :
    Adds r after met' fine' := by
  refine ⟨?_, h.nodup, by rw [h.count, hmet.length_eq], by rw [h.quiet, hfine]⟩
  intro id
  rw [h.seen, (hmet.map _).mem_iff]

/-- Meeting a block notes its id and finds no other fault. -/
theorem meet (r : Report) (b : Block) : Adds r (r.meet b) [b] True := by
  unfold Report.meet
  split
  case isTrue hmet =>
    have hmem : b.id ∈ r.seen := by simpa using hmet
    refine ⟨?_, id, ?_, ?_⟩
    · intro id
      simp only [Report.warn, List.map_singleton, List.mem_singleton]
      exact ⟨Or.inl, fun h => h.elim (fun h => h) fun h => h ▸ hmem⟩
    · simp [Report.warn, Report.duplicates, Fault.isDuplicate, Nat.add_assoc]
    · simp [Report.warn, Report.Quiet, Fault.isDuplicate, or_imp, forall_and]
  case isFalse hnew =>
    have hnot : b.id ∉ r.seen := by simpa using hnew
    refine ⟨?_, fun hnodup => List.nodup_cons.2 ⟨hnot, hnodup⟩, ?_, by simp [Report.Quiet]⟩
    · intro id
      rw [List.mem_cons, List.map_singleton, List.mem_singleton, or_comm]
    · simp only [Report.duplicates, List.length_cons, List.length_nil]
      omega

/-- Warning of a block finds the faults that it has in its place. -/
theorem warn (r : Report) (first : Bool) (b : Block) :
    Adds r (r.warn b (ownFaults first b)) [] (ownFaults first b = []) := by
  have hnone : (ownFaults first b).countP (·.isDuplicate) = 0 := by
    rw [List.countP_eq_zero]
    intro fault hfault
    simp [isDuplicate_of_mem_ownFaults hfault]
  refine ⟨by simp [Report.warn], id, ?_, ?_⟩
  · simpa [Report.warn, Report.duplicates, List.countP_map, Function.comp_def] using hnone
  · simp only [Report.Quiet, Report.warn, List.mem_append, List.mem_map, or_imp, forall_and]
    refine and_congr_right fun _ => ⟨?_, by simp +contextual⟩
    intro hquiet
    rw [List.eq_nil_iff_forall_not_mem]
    intro fault hfault
    have hduplicate := hquiet _ ⟨fault, hfault, rfl⟩
    rw [isDuplicate_of_mem_ownFaults hfault] at hduplicate
    cases hduplicate

end Adds

mutual

/-- A block is met before the chains that it encloses, and found fine exactly if it has no fault in
    its place and those chains are fine. -/
theorem adds_block (first : Bool) (r : Report) (b : Block) :
    Adds r (block first r b) (b :: b.enclosed.flatten)
      (ownFaults first b = [] ∧ ∀ chain ∈ b.enclosed, Fine true chain) := by
  obtain ⟨id, typeId, fields, body, extra⟩ := b
  have hinside := (Adds.meet r ⟨id, typeId, fields, body, extra⟩).trans (adds_blocks true _ body)
  rw [block]
  refine (hinside.trans (.warn _ first _)).congr ?_ ?_
  · rw [Block.enclosed, List.append_nil, List.flatten_cons]
    exact .refl _
  · rw [Block.enclosed, List.forall_mem_cons, true_and, and_comm]

/-- Checking a chain meets its blocks and those inside them. -/
theorem adds_blocks (first : Bool) (r : Report) (chain : List Block) :
    Adds r (blocks first r chain) (chain ++ (Block.enclosedAll chain).flatten)
      (Fine first chain ∧ ∀ inner ∈ Block.enclosedAll chain, Fine true inner) := by
  cases chain with
  | nil => exact (Adds.refl r).congr (.refl _) (by simp [Fine, Block.enclosedAll])
  | cons b rest =>
    rw [blocks]
    refine ((adds_block first r b).trans (adds_blocks false _ rest)).congr ?_ ?_
    · rw [Block.enclosedAll, List.flatten_append, List.cons_append, List.cons_append]
      refine .cons b ?_
      rw [← List.append_assoc, ← List.append_assoc]
      exact List.perm_append_comm.append_right _
    · rw [Block.enclosedAll, List.forall_mem_append, Fine]
      tauto

end

end Lint

namespace Program

/-- Checking a program meets all of its blocks. -/
theorem adds_foldl (program : Program) (r : Lint.Report) :
    Lint.Adds r (program.foldl (fun r c => Lint.blocks true r c.toList) r) program.blocks
      (∀ chain ∈ program.chains, Lint.Fine true chain) := by
  induction program generalizing r with
  | nil => exact (Lint.Adds.refl r).congr (.refl _) (by simp [chains])
  | cons c rest ih =>
    refine ((Lint.adds_blocks true r c.toList).trans (ih _)).congr ?_ ?_
    · rw [blocks, blocks, chains, chains, List.flatMap_cons, List.flatten_append, List.flatten_cons]
    · rw [chains, chains, List.flatMap_cons, List.forall_mem_append, List.forall_mem_cons]

/-- The chains of a clean program, those inside blocks included, consist of faultless blocks. -/
theorem fine_of_isClean {program : Program} (hclean : program.isClean = true) :
    ∀ chain ∈ program.chains, Lint.Fine true chain := by
  rw [isClean, List.isEmpty_iff] at hclean
  have hadds := program.adds_foldl ⟨[], []⟩
  exact (hadds.quiet.1 (Lint.Report.eq_nil_iff.1 hclean).2).2

/-- The linter finds nothing exactly if the ids of all blocks differ, every block is of a kind that the
    editor offers and holds what is declared for its fields, no hat follows another block, and no chain
    starts with a repeat. It reports an id as met before for every block beyond the number of ids. -/
theorem lint_is_exact (program : Program) :
    (program.isClean = true ↔ (program.blocks.map (·.id)).Nodup ∧ (∀ b ∈ program.blocks, b.Filled) ∧
      ∀ chain ∈ program.chains, (∀ b ∈ chain.tail, b.isHat = false) ∧
        ∀ b ∈ chain.head?, b.is .repeatAbove = false) ∧
    (program.lint.countP fun w => w.fault.message = "Duplicate block id.") +
      (program.blocks.map (·.id)).toFinset.card = program.blocks.length := by
  have hadds := program.adds_foldl ⟨[], []⟩
  generalize hreport : program.foldl (fun r c => Lint.blocks true r c.toList) ⟨[], []⟩ = report at hadds
  have hlint : program.lint = report.warnings := by rw [lint, hreport]
  have hcount : report.duplicates + (program.blocks.map (·.id)).toFinset.card = program.blocks.length := by
    have hids : report.seen.toFinset = (program.blocks.map (·.id)).toFinset := by
      ext id
      simp [hadds.seen]
    rw [← hids, List.toFinset_card_of_nodup (hadds.nodup List.nodup_nil), Nat.add_comm, hadds.count]
    simp [Lint.Report.duplicates]
  have hnodup : report.duplicates = 0 ↔ (program.blocks.map (·.id)).Nodup := by
    have hcard := Multiset.toFinset_card_eq_card_iff_nodup
      (m := Multiset.ofList (program.blocks.map (·.id)))
    rw [Multiset.coe_card, Multiset.coe_nodup, List.length_map] at hcard
    rw [← hcard, ← hcount, List.toFinset]
    omega
  have hfine : (∀ chain ∈ program.chains, Lint.Fine true chain) ↔ (∀ b ∈ program.blocks, b.Filled) ∧
      ∀ chain ∈ program.chains, (∀ b ∈ chain.tail, b.isHat = false) ∧
        ∀ b ∈ chain.head?, b.is .repeatAbove = false := by
    have hfilled : (∀ b ∈ program.blocks, b.Filled) ↔ ∀ chain ∈ program.chains, ∀ b ∈ chain, b.Filled := by
      simp only [blocks, List.mem_flatten]
      exact ⟨fun h chain hchain b hb => h b ⟨chain, hchain, hb⟩,
        fun h b ⟨chain, hchain, hb⟩ => h chain hchain b hb⟩
    rw [hfilled, ← forall₂_and]
    exact forall₂_congr fun chain _ => Lint.fine_true_iff
  refine ⟨?_, ?_⟩
  · rw [← hnodup, ← hfine, isClean, hlint, List.isEmpty_iff, Lint.Report.eq_nil_iff, hadds.quiet]
    simp [Lint.Report.Quiet]
  · simp only [Fault.message_eq_iff, hlint]
    simpa [Lint.Report.duplicates] using hcount

end Program

end SpriteStage
