import SpriteStage.Proofs.Program.Legible
import SpriteStage.Proofs.Session.CleanRuns

namespace SpriteStage

variable {α : Type} [Scalar α]

/-- All that a chain of legible blocks dispatches is legible, copies included. -/
theorem Chain.legible_of_mem_script {c : Chain} (hc : ∀ b ∈ c.toList, ∃ kind, b.Legible kind)
    (limit : Nat) : ∀ b ∈ c.script limit, ∃ kind, b.Legible kind := by
  refine c.forall_script ?_ hc limit
  rintro b number ⟨kind, hkind⟩
  exact ⟨kind, hkind.congr rfl⟩

/-- A legible repeat asks for the number of copies in its field, or for one, and that is a number of at
    least one. -/
theorem Block.Legible.dispatch_repeat {b : Block} (h : b.Legible .repeatAbove) (s : Sprite α)
    (context : Context α) : ∃ times, b.dispatch s context = .repeatAbove times ∧
      times = (b.field? "TIMES").elim 1 Json.number ∧
      Number.isNaN times = false ∧ Number.less times 1 = false := by
  have hcount := h.countsUp rfl
  have hdispatch := (b.dispatch_eq_repeatAbove_iff s context b.repeatTimes).2 ⟨h.known, rfl⟩
  exact ⟨b.repeatTimes, hdispatch, hcount.repeatTimes_eq, hcount.repeatTimes⟩

namespace Session

/-- The effect of a block depends on the fields that are declared for its type; of these, the numbers
    that are read from the numeric fields and the texts of the others count. In a run of a clean program
    every block that is dispatched is of a known type, has the declared fields, apart from the count of
    a repeat, and none of the numbers read from it is NaN. Every repeat asks for copies, as many as the
    number in its field says or one, and that number is neither NaN nor below one; no other block does. -/
theorem clean_runs_are_legible :
    (∀ a b : Block, a.typeId = b.typeId →
      (∀ kind, a.kind? = some kind →
        ∀ spec ∈ kind.valueFields, a.field? spec.name = b.field? spec.name) →
      ∀ (sprite : Sprite α) (context : Context α),
        a.dispatch sprite context = b.dispatch sprite context) ∧
    (∀ a b : Block, a.typeId = b.typeId →
      (∀ kind, a.kind? = some kind → a.ReadAlike b kind) →
      ∀ (sprite : Sprite α) (context : Context α),
        a.dispatch sprite context = b.dispatch sprite context) ∧
    ∀ (program : Program) (s : Session α), program.isClean = true → s.Reachable →
      ∀ c ∈ program, ∀ (n : Nat) (t : Task α), s.task? n = some t →
        t.work = .chain ⟨Cursor.start c, .dispatch⟩ →
        ∀ (events : List (Event α)) (b : Block), .dispatch b ∈ s.acts n events →
          ∃ kind, b.kind? = some kind ∧
            (∀ spec ∈ kind.valueFields,
              (b.field? spec.name).isSome = true ∨ kind = .repeatAbove ∧ spec.name = "TIMES") ∧
            (∀ spec ∈ kind.valueFields, spec.isNumber = true →
              Number.isNaN (b.reading kind spec.name) = false) ∧
            (kind = .repeatAbove → ∀ (sprite : Sprite α) (context : Context α), ∃ times,
              b.dispatch sprite context = .repeatAbove times ∧
              times = (b.field? "TIMES").elim 1 Json.number ∧
              Number.isNaN times = false ∧ Number.less times 1 = false) ∧
            ∀ (sprite : Sprite α) (context : Context α) (times : Float),
              b.dispatch sprite context = .repeatAbove times → kind = .repeatAbove := by
  refine ⟨fun _ _ => Block.dispatch_congr, fun _ _ => Block.dispatch_congr_of_readAlike, ?_⟩
  intro program s hclean hs c hc n t ht hwork events b hb
  obtain ⟨hplan, -⟩ := acts_prefix_plan hs.consistent ht hwork events
  have hscript := Cursor.dispatch_mem_plan_start.1 (hplan.subset hb)
  obtain ⟨kind, hlegible⟩ := c.legible_of_mem_script (Program.legible_of_isClean hclean hc) _ b hscript
  refine ⟨kind, hlegible.known, hlegible.present, hlegible.number, ?_, ?_⟩
  · rintro rfl sprite context
    exact hlegible.dispatch_repeat sprite context
  · intro sprite context times hdispatch
    obtain ⟨hrepeat, -⟩ := (b.dispatch_eq_repeatAbove_iff sprite context times).1 hdispatch
    exact Option.some.inj (hlegible.known.symm.trans hrepeat)

/-- The copy that the repeat makes of the move. -/
def echoedMove : Block := ⟨"m~1", "move", [("x_position", .int 10)], [], []⟩

/-- The same move under another id and with entries that are not declared. -/
def markedMove : Block :=
  ⟨"n", "move", [("shade", .null), ("x_position", .int 10)], [], [("y", .int 3)]⟩

/-- The same move with its number as text. -/
def spelledMove : Block := ⟨"m~1", "move", [("x_position", .str " 10 ")], [], []⟩

/-- The first repeat of the chain. -/
def echoedTwice : Block := ⟨"r", "repeat", [("TIMES", .int 2)], [], []⟩

/-- Moves that are read alike have the same effect. Of what the chain dispatches, the third block asks for
    two copies, and the fourth, one of these, is legible. -/
theorem clean_runs_are_legible_echoing :
    (∀ (sprite : Sprite Float) (context : Context Float),
      echoedMove.dispatch sprite context = markedMove.dispatch sprite context ∧
        echoedMove.dispatch sprite context = spelledMove.dispatch sprite context) ∧
    ∃ t, echoing.task? 0 = some t ∧ Program.isClean [echoChain] = true ∧
      t.work = .chain ⟨Cursor.start echoChain, .dispatch⟩ ∧
      .dispatch echoedTwice ∈ echoing.acts 0 [.step 0, .step 0, .step 0] ∧
      (∀ (sprite : Sprite Float) (context : Context Float), ∃ times,
        echoedTwice.dispatch sprite context = .repeatAbove times ∧ times = Number.ofInt 2 ∧
          Number.less times 1 = false) ∧
      .dispatch echoedMove ∈ echoing.acts 0 [.step 0, .step 0, .step 0, .step 0] ∧
      ∃ kind, echoedMove.kind? = some kind ∧ ∀ spec ∈ kind.valueFields, spec.isNumber = true →
        Number.isNaN (echoedMove.reading kind spec.name) = false := by
  have hreachable : echoing.Reachable := ⟨{ Config.default with maxSteps := 6 }, 0, _, rfl⟩
  have hclean : Program.isClean [echoChain] = true := by decide +kernel
  have hfound : (echoing.task? 0).isSome = true := by decide
  obtain ⟨t, ht⟩ := Option.isSome_iff_exists.1 hfound
  have hstart : (echoing.task? 0).map (·.work) =
      some (.chain ⟨Cursor.start echoChain, .dispatch⟩) := rfl
  rw [ht, Option.map_some, Option.some.injEq] at hstart
  have hlast : (echoing.acts 0 [.step 0, .step 0, .step 0, .step 0]).getLast? =
      some (.dispatch echoedMove) := rfl
  have hmem := List.mem_of_getLast? hlast
  have hthird : (echoing.acts 0 [.step 0, .step 0, .step 0]).getLast? = some (.dispatch echoedTwice) := rfl
  have hbefore := List.mem_of_getLast? hthird
  obtain ⟨hfields, hreadings, hruns⟩ := clean_runs_are_legible (α := Float)
  have hlegible := hruns [echoChain] echoing hclean hreachable echoChain List.mem_cons_self 0 t ht hstart
  obtain ⟨kind, hkind, -, hnumbers, -⟩ := hlegible _ echoedMove hmem
  obtain ⟨_, hrepeat, -, -, hcopies, -⟩ := hlegible _ echoedTwice hbefore
  refine ⟨?_, t, ht, hclean, hstart, hbefore, ?_, hmem, kind, hkind, hnumbers⟩
  case refine_2 =>
    intro sprite context
    obtain ⟨times, hdispatch, htimes, -, hless⟩ := hcopies (Option.some.inj hrepeat).symm sprite context
    exact ⟨times, hdispatch, htimes, hless⟩
  intro sprite context
  refine ⟨hfields _ _ rfl ?_ sprite context, hreadings _ _ rfl ?_ sprite context⟩
  all_goals
    intro kind hkind spec hspec
    obtain rfl : BlockKind.move = kind := Option.some.inj hkind
    obtain rfl : spec = FieldSpec.number "x_position" 20 := List.mem_singleton.1 hspec
    rfl

end Session

end SpriteStage
