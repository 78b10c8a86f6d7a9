import SpriteStage.Proofs.Cursor.Unrolling
import SpriteStage.Proofs.Session.Acts

namespace SpriteStage.Session

variable {α : Type} [Scalar α]

/-- A chain of a clean program runs as its repeats read. It dispatches the types and fields of the
    first blocks of its unrolling, as many as the step limit allows, and it comes to the end of them,
    with two turns for each block and two for the end at most, unless it is cancelled before. It ends
    as runaway exactly if its unrolling is longer than the limit. -/
theorem acts_follow_unrolling {s : Session α} (hs : s.Reachable) {n : Nat} {t : Task α}
    (ht : s.task? n = some t) {program : Program} (hclean : program.isClean = true) {c : Chain}
    (hc : c ∈ program) (hwork : t.work = .chain ⟨Cursor.start c, .dispatch⟩)
    (events : List (Event α)) :
    let limit := s.stage.config.maxSteps
    let how := if (limit : ℕ∞) < Runs.length c.unrolling then .runaway else .completed
    let course := (Runs.take limit c.unrolling).map (fun b => .dispatch b.content) ++ [.finish how]
    (s.acts n events).map (Act.map Block.content) <+: course ∧
      ((s.acts n events).map (Act.map Block.content) = course ∨
        (s.play events).stage.registry.isCancelled t.token = true ∨
        (s.play events).task? n ≠ none ∧ s.turns n events ≤ 2 * course.length) := by
  intro limit how course
  have hplan : ((Cursor.start c).plan limit).map (Act.map Block.content) = course :=
    (Program.clean_of_isClean hclean hc).map_plan_start hs.maxSteps_pos
  have hlength : ((Cursor.start c).plan limit).length = course.length := by
    rw [← hplan, List.length_map]
  obtain ⟨hpart, hend⟩ := acts_prefix_plan hs.consistent ht hwork events
  rw [hlength] at hend
  rw [← hplan]
  refine ⟨hpart.map _, ?_⟩
  rcases hend with hall | hcut
  · exact Or.inl (congrArg _ hall)
  · rw [hplan]
    exact Or.inr hcut

/-- Two repeats behind one block, the second of which asks for more copies than there are steps. -/
def echoChain : Chain :=
  ⟨⟨"f", "when_flag_clicked", [], [], []⟩, [⟨"m", "move", [("x_position", .int 10)], [], []⟩,
    ⟨"r", "repeat", [("TIMES", .int 2)], [], []⟩, ⟨"q", "repeat", [("TIMES", .int 99)], [], []⟩]⟩

/-- A dog that is about to run that chain with a limit of six blocks. -/
def echoing : Session Float :=
  (new { Config.default with maxSteps := 6 } 0).play
    [.control (.add .dog), .control (.setProgram 1 [echoChain]), .control (.run 1)]

/-- A chain with two repeats in a row keeps to its unrolling. -/
theorem acts_follow_unrolling_echoing : ∃ t, echoing.task? 0 = some t ∧
    Program.isClean [echoChain] = true ∧ t.work = .chain ⟨Cursor.start echoChain, .dispatch⟩ ∧
    (echoing.acts 0 [.step 0, .step 0, .step 0, .step 0]).map (Act.map Block.content) <+:
      (Runs.take 6 echoChain.unrolling).map (fun b => .dispatch b.content) ++
        [.finish (if ((6 : Nat) : ℕ∞) < Runs.length echoChain.unrolling then .runaway
          else .completed)] := by
  have hreachable : echoing.Reachable := ⟨{ Config.default with maxSteps := 6 }, 0, _, rfl⟩
  have hclean : Program.isClean [echoChain] = true := by decide +kernel
  have hfound : (echoing.task? 0).isSome = true := by decide
  obtain ⟨t, ht⟩ := Option.isSome_iff_exists.1 hfound
  have hstart : (echoing.task? 0).map (·.work) = some (.chain ⟨Cursor.start echoChain, .dispatch⟩) := rfl
  rw [ht, Option.map_some, Option.some.injEq] at hstart
  have hcourse := acts_follow_unrolling hreachable ht hclean List.mem_cons_self hstart
    [.step 0, .step 0, .step 0, .step 0]
  exact ⟨t, ht, hclean, hstart, hcourse.1⟩

end SpriteStage.Session
