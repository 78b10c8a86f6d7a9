import SpriteStage.Proofs.Session.Undrawn

namespace SpriteStage.Session

variable {α : Type} [Scalar α]

/-- The steps that a sprite sees in the course of a list of events. -/
def course (id : Nat) : List (Event α) → Session α → List OwnStep
  | [], _ => []
  | event :: events, s => (s.ownStep? id event).toList ++ course id events (s.handle event)

/-- Nobody operates the stage in the course of the events, and only some of the sprites see a step. -/
def PlaysOnly (sprites : Nat → Prop) : List (Event α) → Session α → Prop
  | [], _ => True
  | event :: events, s => s.AffectsOnly sprites event ∧ PlaysOnly sprites events (s.handle event)

/-- A run touches only the sprites whose courses in it are not empty. -/
theorem playsOnly_of_course {sprites : Nat → Prop} {s : Session α} {events : List (Event α)}
    (hevents : ∀ event ∈ events, event.IsBackground)
    (hcourse : ∀ id, s.course id events ≠ [] → sprites id) : s.PlaysOnly sprites events := by
  induction events generalizing s with
  | nil => trivial
  | cons event rest ih =>
    refine ⟨⟨hevents event List.mem_cons_self, ?_⟩, ?_⟩
    · intro id hseen
      apply hcourse
      simp [course, hseen]
    · apply ih fun other hother => hevents other (List.mem_cons_of_mem _ hother)
      intro id hrest
      apply hcourse
      simp [course, hrest]

/-- A sprite that is not there sees no steps. -/
theorem course_of_not_mem {s : Session α} (hs : s.Reachable) {id : Nat}
    (hid : id ∉ s.stage.store.ids) {events : List (Event α)}
    (hevents : ∀ event ∈ events, event.IsBackground) : s.course id events = [] := by
  induction events generalizing s with
  | nil => rfl
  | cons event rest ih =>
    have h := hs.consistent
    have hnone : s.ownStep? id event = none := by
      by_contra hsome
      obtain ⟨own, hown⟩ := Option.ne_none_iff_exists'.1 hsome
      obtain ⟨t, front, back, _, _, hpending, _⟩ := h.ownStep?_eq_some hown
      have hmem : t ∈ s.pending id := by simp [hpending]
      obtain ⟨ht, rfl, hlive⟩ := mem_pending_iff.1 hmem
      exact hid ((s.stage.store.mem_ids_iff_contains _).2 (h.contains_of_live ht hlive))
    have hids := (KeepsPrograms.handle hs.tracked (hevents event List.mem_cons_self)).ids
    have hrest := ih (hs.play [event]) (hids ▸ hid) fun other hother =>
      hevents other (List.mem_cons_of_mem _ hother)
    rw [course, hnone]
    exact hrest

namespace Undrawn

variable {sprites : Nat → Prop} {s other : Session α} {id : Nat}

/-- A run in the background leaves what all sprites share as it is. -/
theorem sameFrame_play (h : s.Undrawn sprites) {events : List (Event α)}
    (hevents : s.PlaysOnly sprites events) : s.stage.SameFrame (s.play events).stage := by
  induction events generalizing s with
  | nil => exact .refl s.stage
  | cons event rest ih =>
    obtain ⟨haffects, hrest⟩ := hevents
    exact (h.sameFrame_handle haffects).trans (ih (h.handle haffects) hrest)

/-- As long as a sprite sees no step, nothing changes for it. -/
theorem sameView_play_of_unseen (h : s.Undrawn sprites) {events : List (Event α)}
    (hevents : s.PlaysOnly sprites events) (hunseen : s.course id events = []) :
    s.SameView id (s.play events) := by
  induction events generalizing s with
  | nil => exact .refl id s
  | cons event rest ih =>
    obtain ⟨haffects, hrest⟩ := hevents
    rw [course, List.append_eq_nil_iff, Option.toList_eq_nil_iff] at hunseen
    have hfirst := h.sameView_handle_of_unseen haffects hunseen.1
    exact hfirst.trans (ih (h.handle haffects) hrest hunseen.2)

/-- Up to the first step that a sprite sees, nothing changes for it. -/
theorem first_seen (h : s.Undrawn sprites) {events : List (Event α)}
    (hevents : s.PlaysOnly sprites events) {own : OwnStep} {rest : List OwnStep}
    (hcourse : s.course id events = own :: rest) :
    ∃ (middle : Session α) (event : Event α) (later : List (Event α)),
      s.play events = middle.play (event :: later) ∧ s.SameView id middle ∧
        middle.Undrawn sprites ∧ middle.PlaysOnly sprites (event :: later) ∧
        middle.ownStep? id event = some own ∧ (middle.handle event).course id later = rest := by
  induction events generalizing s with
  | nil => cases hcourse
  | cons event later ih =>
    rw [course] at hcourse
    cases hseen : s.ownStep? id event with
    | some first =>
      rw [hseen, Option.toList_some, List.singleton_append, List.cons.injEq] at hcourse
      obtain ⟨rfl, hrest⟩ := hcourse
      exact ⟨s, event, later, rfl, .refl id s, h, hevents, hseen, hrest⟩
    | none =>
      obtain ⟨haffects, hlater⟩ := hevents
      rw [hseen, Option.toList_none, List.nil_append] at hcourse
      obtain ⟨middle, next, after, hplay, hsame, hfound⟩ := ih (h.handle haffects) hlater hcourse
      exact ⟨middle, next, after, hplay, (h.sameView_handle_of_unseen haffects hseen).trans hsame, hfound⟩

/-- What becomes of a sprite depends on the steps that it sees. -/
theorem sameView_play (h : s.Undrawn sprites) (hother : other.Undrawn sprites)
    (hsame : s.SameView id other) {first second : List (Event α)}
    (hfirst : s.PlaysOnly sprites first) (hsecond : other.PlaysOnly sprites second)
    (hcourse : other.course id second = s.course id first) :
    (s.play first).SameView id (other.play second) := by
  -- By induction on the steps that the sprite sees: the two lists of events have nothing else in common.
  generalize hsteps : s.course id first = steps at hcourse
  induction steps generalizing s other first second with
  | nil =>
    have hstill := h.sameView_play_of_unseen hfirst hsteps
    have hunmoved := hother.sameView_play_of_unseen hsecond hcourse
    exact (hstill.symm.trans hsame).trans hunmoved
  | cons own rest ih =>
    obtain ⟨s', event, later, hplay, hview, h', ⟨haffects, hlater⟩, hown, hrest⟩ :=
      h.first_seen hfirst hsteps
    obtain ⟨other', next, after, hplay', hview', hother', ⟨haffects', hafter⟩, hown', hrest'⟩ :=
      hother.first_seen hsecond hcourse
    have hmiddle := (hview.symm.trans hsame).trans hview'
    have hhandled := h'.sameView_handle hother' hmiddle haffects hown hown'
    rw [hplay, hplay']
    exact ih (h'.handle haffects) (hother'.handle haffects') hhandled hlater hafter hrest hrest'

end Undrawn

/-- Programs of different sprites do not interfere. With Hero Mode off, a step of a task of one sprite and
    one of another's commute, at whatever time each of them is taken, unless it draws a random position.
    And any two orders of steps in which each sprite sees the same steps of its own tasks, with the same
    parts of its glides over, lead to the same stage, unless a block that goes to a random place is still
    to come on one of the sprites that take steps. -/
theorem sprites_do_not_interfere {s : Session α} (hs : s.Reachable)
    (hoff : s.stage.hero.enabled = false) :
    (∀ t ∈ s.tasks, ∀ u ∈ s.tasks, t.sprite ≠ u.sprite → ¬ t.Draws s.stage → ¬ u.Draws s.stage →
      ∀ x y : Nat, (u.step y (t.step x s.stage).stage).stage =
        (t.step x (u.step y s.stage).stage).stage) ∧
    ∀ first second : List (Event α), (∀ event ∈ first, event.IsBackground) →
      (∀ event ∈ second, event.IsBackground) →
      (∀ id ∈ s.stage.store.ids, s.course id second = s.course id first) →
      (∀ id, s.course id first ≠ [] → ∀ t ∈ s.live id, ∀ b,
        .dispatch b ∈ t.work.plan s.stage.config.maxSteps → ¬ b.is .goToRandom = true) →
      (s.play second).stage = (s.play first).stage := by
  have h := hs.consistent
  have hmode : s.stage.hero = .off := by
    have hcolliding := hs.tracked.knows.colliding_of_off hoff
    cases hhero : s.stage.hero
    simp_all [HeroMode.off]
  refine ⟨fun t ht u hu hne htDraws huDraws => h.step_comm hmode ht hu hne htDraws huDraws, ?_⟩
  intro first second hfirst hsecond hcourses hplans
  have hcourse (id : Nat) : s.course id second = s.course id first := by
    by_cases hid : id ∈ s.stage.store.ids
    · exact hcourses id hid
    · rw [course_of_not_mem hs hid hsecond, course_of_not_mem hs hid hfirst]
  have hundrawn : s.Undrawn fun id => s.course id first ≠ [] := ⟨h, hmode, hplans⟩
  have hplays : s.PlaysOnly (fun id => s.course id first ≠ []) first :=
    playsOnly_of_course hfirst fun _ hmoves => hmoves
  have hplays' : s.PlaysOnly (fun id => s.course id first ≠ []) second :=
    playsOnly_of_course hsecond fun id hmoves => hcourse id ▸ hmoves
  have hframe := (hundrawn.sameFrame_play hplays).symm.trans (hundrawn.sameFrame_play hplays')
  apply hframe.eq
  intro id
  exact (hundrawn.sameView_play hundrawn (.refl id s) hplays hplays' (hcourse id)).stage

/-- A dog that greets and then glides, and a cat that wonders and then turns. -/
def strollChain : Chain :=
  ⟨⟨"f", "when_flag_clicked", [], [], []⟩,
    [⟨"s", "say_for_seconds", [("message", .str "hello"), ("seconds", .int 1)], [], []⟩,
      ⟨"g", "glide", [("seconds", .int 1), ("x_position", .int 90), ("y_position", .int 60)], [], []⟩]⟩

def wonderChain : Chain :=
  ⟨⟨"h", "when_flag_clicked", [], [], []⟩,
    [⟨"t", "think_for_seconds", [("message", .str "why"), ("seconds", .int 2)], [], []⟩,
      ⟨"c", "clockwise", [("degrees", .int 15)], [], []⟩]⟩

def meeting : Session Float :=
  (new { Config.default with maxSteps := 4 } 0).play
    [.control (.add .dog), .control (.add .cat), .control (.setProgram 1 [strollChain]),
      .control (.setProgram 2 [wonderChain]), .control (.run 1), .control (.run 2)]

/-- The dog goes first: its timer gets the id 2, and the timer of the cat gets the id 3. -/
def dogFirst : List (Event Float) :=
  [.step 0, .step 0, .step 1, .step 1, .step 0, .pass 20, .step 0, .step 3, .step 1]

/-- The cat goes first, so the timers get each other's ids, and the glide begins later. -/
def catFirst : List (Event Float) :=
  [.step 1, .step 0, .step 1, .pass 7, .step 2, .step 0, .step 0, .step 1, .pass 20, .step 0]

/-- Whichever of the two goes first, both come to the same. -/
theorem sprites_do_not_interfere_meeting :
    (∀ t ∈ meeting.tasks, ∀ u ∈ meeting.tasks, t.sprite ≠ u.sprite → ∀ x y : Nat,
      (u.step y (t.step x meeting.stage).stage).stage = (t.step x (u.step y meeting.stage).stage).stage) ∧
    meeting.course 1 dogFirst = [⟨0, 0⟩, ⟨0, 0⟩, ⟨0, 0⟩, ⟨0, 20⟩] ∧
    (meeting.play catFirst).stage = (meeting.play dogFirst).stage := by
  have hreachable : meeting.Reachable := ⟨{ Config.default with maxSteps := 4 }, 0, _, rfl⟩
  have htasks : meeting.tasks = [⟨0, 1, ⟨1, 0⟩, .chain ⟨Cursor.start strollChain, .dispatch⟩, 0, 0⟩,
    ⟨1, 2, ⟨2, 2⟩, .chain ⟨Cursor.start wonderChain, .dispatch⟩, 0, 1⟩] := rfl
  have hscripts : (∀ b ∈ strollChain.script 4, ¬ b.is .goToRandom = true) ∧
    ∀ b ∈ wonderChain.script 4, ¬ b.is .goToRandom = true := by decide
  have hblocks (t : Task Float) (ht : t ∈ meeting.tasks) (b : Block)
      (hb : .dispatch b ∈ t.work.plan meeting.stage.config.maxSteps) : ¬ b.is .goToRandom = true := by
    rw [htasks] at ht
    rcases List.mem_pair.1 ht with rfl | rfl
    · exact hscripts.1 b (Cursor.dispatch_mem_plan_start.1 hb)
    · exact hscripts.2 b (Cursor.dispatch_mem_plan_start.1 hb)
  have hdraws (t : Task Float) (ht : t ∈ meeting.tasks) : ¬ t.Draws meeting.stage := by
    rintro ⟨b, hact, hb⟩
    exact hblocks t ht b (Task.mem_plan_of_act? hact) hb
  have hcourses : ∀ id ∈ meeting.stage.store.ids,
      meeting.course id catFirst = meeting.course id dogFirst := by decide +kernel
  obtain ⟨hcomm, horders⟩ := sprites_do_not_interfere hreachable rfl
  refine ⟨?_, ?_, ?_⟩
  · intro t ht u hu hne
    exact hcomm t ht u hu hne (hdraws t ht) (hdraws u hu)
  · decide +kernel
  · apply horders dogFirst catFirst _ _ hcourses
    · intro id _ t ht
      exact hblocks t (mem_live_iff.1 ht).1
    · simp [dogFirst, Event.IsBackground]
    · simp [catFirst, Event.IsBackground]

end SpriteStage.Session
