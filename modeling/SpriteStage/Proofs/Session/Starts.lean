import Mathlib.Data.List.Pairwise
import SpriteStage.Proofs.Program.Export
import SpriteStage.Proofs.Session.Precedes
import SpriteStage.Proofs.Session.Silent
import SpriteStage.Proofs.Session.Trading

namespace SpriteStage

namespace Program

/-- A chain is on the top level unless its id is that of a block behind a head. -/
theorem mem_topLevel_iff {program : Program} {c : Chain} :
    c ∈ program.topLevel ↔ c ∈ program ∧ ∀ d ∈ program, ∀ b ∈ d.tail.head?, b.id ≠ c.head.id := by
  simp only [topLevel, List.mem_filter, Bool.not_eq_true', List.contains_eq_mem,
    decide_eq_false_iff_not, List.mem_filterMap, Option.map_eq_some_iff, not_exists, not_and]
  rfl

/-- Where no id occurs twice, every chain is on the top level. -/
theorem mem_topLevel_of_nodup {program : Program}
    (hnodup : ((program.flatMap Chain.toList).map (·.id)).Nodup) {c : Chain} (hc : c ∈ program) :
    c ∈ program.topLevel := by
  rw [List.map_flatMap, List.nodup_flatMap] at hnodup
  obtain ⟨hown, hothers⟩ := hnodup
  refine mem_topLevel_iff.2 ⟨hc, ?_⟩
  intro d hd b hb hid
  have hmem : b ∈ d.tail := List.mem_of_mem_head? hb
  by_cases hsame : c = d
  · subst hsame
    have hchain := hown c hc
    rw [Chain.toList, List.map_cons, List.nodup_cons] at hchain
    exact hchain.1 (hid ▸ List.mem_map_of_mem hmem)
  · have : Std.Symm (Function.onFun List.Disjoint fun c : Chain => c.toList.map (·.id)) :=
      ⟨fun _ _ hdisjoint => hdisjoint.symm⟩
    have hdisjoint := hothers.forall hc hd hsame
    exact hdisjoint (List.mem_map_of_mem List.mem_cons_self)
      (hid ▸ List.mem_map_of_mem (List.mem_cons_of_mem _ hmem))

end Program

variable {α : Type}

/-- The chain that a task is about to run, if the task has not dispatched any of it. -/
def Task.begins? (t : Task α) : Option Chain :=
  match t.work with
  | .chain ⟨cursor, .dispatch⟩ => if cursor.steps = 0 then Chain.ofList? cursor.rest else none
  | _ => none

namespace Session

/-- The chains that tasks from a bound on are about to run on a sprite, in order. -/
def begun (bound id : Nat) (s : Session α) : List Chain :=
  (s.tasks.filter fun t => bound ≤ t.id ∧ t.sprite = id).filterMap Task.begins?

variable [Scalar α]

/-- The chains that a control operation starts on a sprite. -/
def startedBy (control : Control α) (id : Nat) (s : Session α) : List Chain :=
  (s.perform control).begun s.nextTask id

/-- A chain that is started has begun on its sprite, behind those that began before. -/
theorem begun_startChain {s : Session α} {bound : Nat} (hle : bound ≤ s.nextTask) (id other : Nat)
    (chain : Chain) : (s.startChain other chain).begun bound id =
      s.begun bound id ++ if other = id then [chain] else [] := by
  unfold begun
  change List.filterMap _ (List.filter _ (s.tasks ++ [_])) = _
  rw [List.filter_append, List.filterMap_append]
  congr 1
  split
  case isTrue hid => rw [List.filter_cons_of_pos (by simp [hid, hle])]; rfl
  case isFalse hid => rw [List.filter_cons_of_neg (by simp [hid])]; rfl

/-- The chains that are started on a sprite have begun there, in order. -/
theorem begun_startRun {s : Session α} {bound : Nat} (hle : bound ≤ s.nextTask) (id other : Nat)
    (chains : List Chain) : (s.startRun other chains).begun bound id =
      s.begun bound id ++ if other = id then chains else [] := by
  have hstarts (s : Session α) (hle : bound ≤ s.nextTask) :
      (chains.foldl (startChain other) s).begun bound id =
        s.begun bound id ++ if other = id then chains else [] := by
    induction chains generalizing s with
    | nil => simp
    | cons chain rest ih =>
      rw [List.foldl_cons, ih _ (Nat.le_succ_of_le hle), begun_startChain hle, List.append_assoc]
      congr 1
      split <;> rfl
  exact hstarts (s.halt other) hle

/-- A choice from the program of a sprite is started there, and nothing is started elsewhere. -/
theorem begun_startChosen {s : Session α} {bound : Nat} (hle : bound ≤ s.nextTask)
    (choose : Program → List Chain) (id other : Nat) : (s.startChosen choose other).begun bound id =
      s.begun bound id ++ if other = id then choose (s.stage.programOf id) else [] := by
  unfold startChosen
  split
  case h_1 hnone =>
    split
    case isTrue hid => rw [← hid, hnone, List.append_nil]
    case isFalse => rw [List.append_nil]
  case h_2 =>
    rw [begun_startRun hle]
    congr 1
    split
    case isTrue hid => rw [hid]
    case isFalse => rfl

/-- Where each sprite is met once, its choice is started once. -/
theorem begun_startAll {s : Session α} (h : s.stage.Tracked) {bound : Nat} (hle : bound ≤ s.nextTask)
    (choose : Program → List Chain) (hnil : choose [] = []) {ids : List Nat} (hnodup : ids.Nodup)
    (id : Nat) :
    (ids.foldl (fun s id => s.startChosen choose id) s).begun bound id =
      s.begun bound id ++ if id ∈ ids then choose (s.stage.programOf id) else [] := by
  induction ids generalizing s with
  | nil => simp
  | cons first rest ih =>
    obtain ⟨hfirst, hrest⟩ := List.nodup_cons.1 hnodup
    have hsilent := silent_startChosen (α := α) choose first
    have hprogram : (s.startChosen choose first).stage.programOf id = s.stage.programOf id :=
      Stage.programOf_of_payload? (hsilent.payload? s h id)
    have hnext := (precedes_of_moves (moves_startChosen hnil first s)).nextTask_le
    rw [List.foldl_cons, ih (hsilent.tracked s h) (Nat.le_trans hle hnext) hrest, begun_startChosen hle,
      hprogram, List.append_assoc]
    congr 1
    by_cases hid : first = id
    · subst hid
      simp [hfirst]
    · simp [hid, Ne.symm hid]

omit [Scalar α] in
/-- Nothing has begun that has an id to come. -/
theorem begun_nextTask {s : Session α} (h : s.Consistent) (id : Nat) : s.begun s.nextTask id = [] := by
  have hnone : (s.tasks.filter fun t => s.nextTask ≤ t.id ∧ t.sprite = id) = [] := by
    apply List.filter_eq_nil_iff.2
    intro t ht
    have hlt := h.accounts.id_lt t ht
    simp only [decide_eq_true_eq]
    omega
  rw [begun, hnone, List.filterMap_nil]

/-- Running a sprite starts the flagged chains of its program. -/
theorem startedBy_run {s : Session α} (h : s.Consistent) (id : Nat) :
    s.startedBy (.run id) id = (s.stage.programOf id).flagged := by
  have hchosen := begun_startChosen (Nat.le_refl s.nextTask) Program.flagged id id
  rw [begun_nextTask h, List.nil_append, if_pos rfl] at hchosen
  exact hchosen

/-- Running all starts the top-level chains of every sprite. -/
theorem startedBy_runAll {s : Session α} (h : s.Consistent) (htracked : s.stage.Tracked) {id : Nat}
    (hknown : s.stage.store.contains id = true) :
    s.startedBy .runAll id = (s.stage.programOf id).topLevel := by
  have hnodup : s.stage.store.ids.Nodup := htracked.wellFormed.ascending.imp Nat.ne_of_lt
  have hall := begun_startAll htracked (Nat.le_refl s.nextTask) Program.topLevel rfl hnodup id
  rw [begun_nextTask h, List.nil_append,
    if_pos ((s.stage.store.mem_ids_iff_contains id).2 hknown)] at hall
  exact hall

/-- A program is stored as it is. -/
theorem programOf_setProgram {s : Session α} (h : s.stage.Tracked) {id : Nat}
    (hknown : s.stage.store.contains id = true) (program : Program) :
    (s.perform (.setProgram id program)).stage.programOf id = program := by
  obtain ⟨sprite, hsprite⟩ := (s.stage.store.contains_iff_get? id).1 hknown
  change (s.stage.setProgram id program).programOf id = program
  have hcommit := h.commit_of_box id (fun sprite => { sprite with program := program }) fun _ _ => rfl
  rw [Stage.setProgram, hcommit, Stage.programOf, Store.get?_update, if_pos rfl, hsprite]
  rfl

/-- For any program that is stored on a sprite, running the sprite starts the flagged chains, and running
    all starts the chains whose id is not that of a block behind a head. So a flagged chain is started by
    running all unless some chain, which may be the flagged one itself, goes on from its head to a block
    with the same id; if no id occurs twice, no flagged chain is left out. -/
theorem flagged_chains_started_by_run_all {s : Session α} (hs : s.Reachable) {id : Nat}
    (hknown : s.stage.store.contains id = true) (nodes : List Json) :
    let program := Program.ofNodes nodes
    let stored := s.perform (.setProgram id program)
    stored.startedBy (.run id) id = program.flagged ∧
    stored.startedBy .runAll id = program.topLevel ∧
    (∀ c ∈ stored.startedBy (.run id) id, c ∈ stored.startedBy .runAll id ↔
      ∀ d ∈ program, ∀ b ∈ d.tail.head?, b.id ≠ c.head.id) ∧
    (((program.flatMap Chain.toList).map (·.id)).Nodup →
      ∀ c ∈ stored.startedBy (.run id) id, c ∈ stored.startedBy .runAll id) := by
  intro program stored
  have hstored : stored.Reachable := hs.perform _
  have hprogram : stored.stage.programOf id = program := programOf_setProgram hs.tracked hknown program
  have hcontains : stored.stage.store.contains id = true :=
    (Stage.contains_commit id id _ s.stage).trans hknown
  have hrun := startedBy_run hstored.consistent id
  have hrunAll := startedBy_runAll hstored.consistent hstored.tracked hcontains
  rw [hprogram] at hrun hrunAll
  rw [hrun, hrunAll]
  have hmem {c : Chain} (hc : c ∈ program.flagged) : c ∈ program := List.mem_of_mem_filter hc
  refine ⟨rfl, rfl, ?_, ?_⟩
  · intro c hc
    rw [Program.mem_topLevel_iff, and_iff_right (hmem hc)]
  · intro hnodup c hc
    exact Program.mem_topLevel_of_nodup hnodup (hmem hc)

/-- A node of the editor, with or without an id. -/
def sampleNode (id : Option String) (entries : List (String × Json)) : Json :=
  .obj ((id.map fun id => ("id", .str id)).toList ++ entries)

/-- A hat and a move behind it. -/
def flaggedNode (first second : Option String) : Json :=
  sampleNode first [("type", .str "when_flag_clicked"),
    ("next", .obj [("block", sampleNode second [("type", .str "move")])])]

/-- The node of a flagged head with a move behind it is read as these two blocks. -/
theorem ofNode_flaggedNode (first second : Option String) : Chain.ofNode (flaggedNode first second) =
    ⟨⟨first.getD "", "when_flag_clicked", [], [], []⟩, [⟨second.getD "", "move", [], [], []⟩]⟩ := by
  have hbody : Export.bodyNode? (flaggedNode first second) = none := by cases first <;> rfl
  have hnext : Export.nextNode? (flaggedNode first second) =
      some (sampleNode second [("type", .str "move")]) := by
    cases first <;> rfl
  rw [Chain.ofNode_eq, hbody, hnext, Export.blocksOf, Export.blocksOf, Option.elim_some,
    Chain.ofNode_eq]
  cases first <;> cases second <;> rfl

/-- A stage with one ball. -/
def alone : Session Float :=
  (new Config.default 0).perform (.add .ball)

theorem reachable_alone : alone.Reachable := ⟨Config.default, 0, [.control (.add .ball)], rfl⟩

theorem contains_alone : alone.stage.store.contains 1 = true := by decide

/-- Where the ids differ, running all starts what running the sprite starts. -/
theorem flagged_chains_started_by_run_all_named :
    let named := flaggedNode (some "f") (some "m")
    let stored := alone.perform (.setProgram 1 (Program.ofNodes [named]))
    Chain.ofNode named ∈ stored.startedBy (.run 1) 1 ∧
      Chain.ofNode named ∈ stored.startedBy .runAll 1 := by
  intro named stored
  have hprogram : Program.ofNodes [named] = [Chain.ofNode named] := rfl
  have hnamed := ofNode_flaggedNode (some "f") (some "m")
  obtain ⟨hrun, -, -, hdistinct⟩ :=
    flagged_chains_started_by_run_all reachable_alone contains_alone [named]
  have hmem : Chain.ofNode named ∈ stored.startedBy (.run 1) 1 := by
    rw [hrun, hprogram, hnamed]
    simp [Program.flagged, Block.is, BlockKind.typeId]
  exact ⟨hmem, hdistinct (by rw [hprogram, hnamed]; decide) (Chain.ofNode named) hmem⟩

/-- Without ids both blocks are read with the empty id, so the chain is taken for one that follows a
    block and is left out, although it is the only one. -/
theorem flagged_chain_missed_by_run_all :
    let unnamed := flaggedNode none none
    let stored := alone.perform (.setProgram 1 (Program.ofNodes [unnamed]))
    Chain.ofNode unnamed ∈ stored.startedBy (.run 1) 1 ∧
      Chain.ofNode unnamed ∉ stored.startedBy .runAll 1 := by
  intro unnamed stored
  have hunnamed := ofNode_flaggedNode none none
  have hstored : stored.Reachable := reachable_alone.perform _
  have hcontains : stored.stage.store.contains 1 = true := by decide
  have hprogram : stored.stage.programOf 1 = [Chain.ofNode unnamed] :=
    programOf_setProgram reachable_alone.tracked contains_alone _
  rw [startedBy_run hstored.consistent, startedBy_runAll hstored.consistent hstored.tracked hcontains,
    hprogram, hunnamed]
  simp [Program.flagged, Program.topLevel, Block.is, BlockKind.typeId]

end Session

end SpriteStage
