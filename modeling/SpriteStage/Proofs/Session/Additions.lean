import Mathlib.Algebra.BigOperators.Group.List.Basic
import SpriteStage.Proofs.Session.Acts
import SpriteStage.Proofs.Session.Background
import SpriteStage.Proofs.Task.Additive

namespace SpriteStage.Session

/-- How much the blocks among some acts add to a quantity. -/
noncomputable def addedBy (q : Quantity) (acts : List (Act Block)) : ℝ :=
  ((acts.filterMap Act.block?).map (·.delta q)).sum

/-- What acts add to a quantity adds up along a run. -/
theorem addedBy_append (q : Quantity) (acts more : List (Act Block)) :
    addedBy q (acts ++ more) = addedBy q acts + addedBy q more := by
  simp [addedBy]

/-- What the act of a chain adds is what its step adds. -/
theorem addedBy_act? {s : Session ℝ} {n : Nat} {t : Task ℝ} (ht : s.task? n = some t) (q : Quantity) :
    addedBy q (s.act? n (.step n)).toList = t.adds q s.stage := by
  simp only [act?, if_true, ht, Option.bind_some, Task.adds, addedBy]
  cases t.act? s.stage with
  | none => rfl
  | some act => cases act <;> simp [Act.block?, List.filterMap_cons]

/-- The tasks with some ids are all that can move a sprite, and they do so by adding to its pose. -/
structure Movers (s : Session ℝ) (id : Nat) (ns : List Nat) : Prop where
  consistent : s.Consistent
  nodup : ns.Nodup
  lt_nextTask : ∀ n ∈ ns, n < s.nextTask
  own : ∀ n ∈ ns, ∀ t, s.task? n = some t → t.sprite = id
  complete : ∀ t ∈ s.live id, t.id ∈ ns
  additive : ∀ t ∈ s.live id, t.work.IsAdditive s.stage.config.maxSteps

namespace Movers

variable {s : Session ℝ} {id : Nat} {ns : List Nat}

/-- The live chains of a sprite are all that moves it, if what they have still to do only adds. -/
theorem of_live (h : s.Consistent)
    (hadditive : ∀ t ∈ s.live id, t.work.IsAdditive s.stage.config.maxSteps) :
    s.Movers id ((s.live id).map (·.id)) := by
  refine ⟨h, h.accounts.nodup.sublist (List.filter_sublist.map _), ?_, ?_, ?_, hadditive⟩
  · intro n hn
    obtain ⟨t, ht, rfl⟩ := List.mem_map.1 hn
    exact h.accounts.id_lt t (mem_live_iff.1 ht).1
  · intro n hn t ht
    obtain ⟨old, hold, rfl⟩ := List.mem_map.1 hn
    obtain ⟨hmem, _, hsprite, _⟩ := mem_live_iff.1 hold
    obtain ⟨htMem, htId⟩ := mem_of_task? ht
    rw [h.accounts.eq_of_id htMem hmem htId, hsprite]
  · intro t ht
    exact List.mem_map_of_mem ht

/-- No event of the background adds a mover, and none makes a mover place its sprite. -/
theorem handle (h : s.Movers id ns) {event : Event ℝ} (hevent : event.IsBackground) :
    (s.handle event).Movers id ns := by
  have hprecedes := h.consistent.precedes_handle event
  refine ⟨h.consistent.handle event, h.nodup, ?_, ?_, ?_, ?_⟩
  · intro n hn
    exact Nat.lt_of_lt_of_le (h.lt_nextTask n hn) hprecedes.nextTask_le
  · intro n hn t ht
    obtain ⟨old, hold, hsprite, _⟩ := hprecedes.task? n t (h.lt_nextTask n hn) ht
    rw [← hsprite]
    exact h.own n hn old hold
  · intro next hnext
    obtain ⟨t, ht, hid, _⟩ := h.consistent.live_background hevent hnext
    rw [← hid]
    exact h.complete t ht
  · intro next hnext
    obtain ⟨t, ht, _, hwork⟩ := h.consistent.live_background hevent hnext
    obtain ⟨hmem, hchain, _, hlive⟩ := mem_live_iff.1 ht
    have hknown := h.consistent.contains_of_live hmem hlive
    rw [hprecedes.config]
    rcases hwork with hsame | ⟨pause, hstep⟩
    · rw [hsame]
      exact h.additive t ht
    · exact Task.isAdditive_step hlive hknown hchain (h.additive t ht) hstep

/-- The task that takes the step adds what its block says. All others add nothing. -/
theorem quantity_handle (h : s.Movers id ns) {event : Event ℝ} (hevent : event.IsBackground)
    (q : Quantity) : ((s.handle event).stage.store.get? id).map (Sprite.quantity q) =
      (s.stage.store.get? id).map fun sprite =>
        sprite.quantity q + (ns.map fun n => addedBy q (s.act? n event).toList).sum := by
  cases event with
  | control control => exact hevent.elim
  | pass ms => simp [Session.handle, act?, addedBy]
  | step n =>
    have hothers (m : Nat) (hm : m ≠ n) (_ : m ∈ ns) : addedBy q (s.act? m (.step n)).toList = 0 := by
      rw [act?_of_ne (by simpa using hm.symm)]
      rfl
    rw [List.sum_map_eq_nsmul_single n _ hothers]
    simp only [Session.handle]
    cases ht : s.task? n with
    | none => simp [act?, ht, addedBy]
    | some t =>
      obtain ⟨hmem, rfl⟩ := mem_of_task? ht
      rw [addedBy_act? ht]
      simp only [stage_runTask]
      by_cases hid : id = t.sprite
      · subst hid
        have hlive (hchain : t.isChain = true)
            (hlive : s.stage.registry.isCancelled t.token = false) : t ∈ s.live t.sprite :=
          mem_live_iff.2 ⟨hmem, hchain, rfl, hlive⟩
        have hadditive (hnot : s.stage.registry.isCancelled t.token = false) :
            t.work.IsAdditive s.stage.config.maxSteps := by
          cases hchain : t.isChain with
          | true => exact h.additive t (hlive hchain hnot)
          | false => exact Task.isAdditive_of_timer hchain _
        rw [Task.quantity_step hadditive]
        by_cases hn : t.id ∈ ns
        · rw [List.count_eq_one_of_mem h.nodup hn, one_smul]
        · have hdead : ¬ t.isLiveOn s.stage.registry t.sprite = true := by
            intro hcounted
            exact hn (h.complete t (List.mem_filter.2 ⟨hmem, hcounted⟩))
          rw [Task.adds_of_not_live hdead, smul_zero]
      · have hnot : t.id ∉ ns := fun hn => hid (h.own t.id hn t ht).symm
        rw [Task.quantity_step_of_ne hid, List.count_eq_zero_of_not_mem hnot]
        simp

/-- While the movers of a sprite take turns, its quantities grow by what the acts of all of them
    add. -/
theorem quantity_play (h : s.Movers id ns) {events : List (Event ℝ)}
    (hevents : ∀ event ∈ events, event.IsBackground) (q : Quantity) :
    ((s.play events).stage.store.get? id).map (Sprite.quantity q) =
      (s.stage.store.get? id).map fun sprite =>
        sprite.quantity q + (ns.map fun n => addedBy q (s.acts n events)).sum := by
  induction events generalizing s with
  | nil => simp [acts, addedBy]
  | cons event rest ih =>
    have hevent := hevents event List.mem_cons_self
    have hfirst := h.quantity_handle hevent q
    have hrest := ih (h.handle hevent) fun other hother => hevents other (List.mem_cons_of_mem _ hother)
    have hsum : (ns.map fun n => addedBy q (s.acts n (event :: rest))).sum =
        (ns.map fun n => addedBy q (s.act? n event).toList).sum +
          (ns.map fun n => addedBy q ((s.handle event).acts n rest)).sum := by
      simp only [acts, addedBy_append, List.sum_map_add]
    rw [play_cons, hrest, hsum]
    cases hsprite : s.stage.store.get? id with
    | none =>
      rw [hsprite, Option.map_none, Option.map_eq_none_iff] at hfirst
      rw [hfirst]
      rfl
    | some sprite =>
      rw [hsprite, Option.map_some] at hfirst
      obtain ⟨next, hnext, hquantity⟩ := Option.map_eq_some_iff.1 hfirst
      rw [hnext, Option.map_some, Option.map_some, hquantity, add_assoc]

end Movers

/-- No update of a pose is lost. While the chains of a sprite are left to themselves and dispatch no
    blocks on its pose but additive ones, its pose is at each moment what it was plus all that any of
    them has added, in whatever order they took their steps, beside whatever else was going on. A
    chain that has ended has dispatched all the blocks of its plan. -/
theorem pose_is_sum_of_additions {s : Session ℝ} (hs : s.Reachable) {id : Nat} {sprite : Sprite ℝ}
    (hsprite : s.stage.store.get? id = some sprite)
    (hadditive : ∀ t ∈ s.live id, t.work.IsAdditive s.stage.config.maxSteps)
    {events : List (Event ℝ)} (hevents : ∀ event ∈ events, event.IsBackground) :
    (∃ next, (s.play events).stage.store.get? id = some next ∧ ∀ q : Quantity,
      next.quantity q =
        sprite.quantity q + ((s.live id).map fun t => addedBy q (s.acts t.id events)).sum) ∧
    ∀ t ∈ s.live id, (s.play events).task? t.id = none →
      s.acts t.id events = t.work.plan s.stage.config.maxSteps := by
  have h := hs.consistent
  have hmovers := Movers.of_live h hadditive
  have hquantity (q : Quantity) : ((s.play events).stage.store.get? id).map (Sprite.quantity q) =
      some (sprite.quantity q + ((s.live id).map fun t => addedBy q (s.acts t.id events)).sum) := by
    have hplay := hmovers.quantity_play hevents q
    rwa [hsprite, Option.map_some, List.map_map] at hplay
  refine ⟨?_, ?_⟩
  · obtain ⟨next, hnext, _⟩ := Option.map_eq_some_iff.1 (hquantity .x)
    refine ⟨next, hnext, ?_⟩
    intro q
    have hsame := hquantity q
    rwa [hnext, Option.map_some, Option.some.injEq] at hsame
  · intro t ht hgone
    obtain ⟨hmem, hchain, _, hlive⟩ := mem_live_iff.1 ht
    have hfound := h.task?_eq_some_iff.2 ⟨hmem, rfl⟩
    rcases acts_follow_plan h hfound hchain events with ⟨now, hnow, _⟩ | hall | ⟨hcancelled, _⟩
    · rw [hgone] at hnow
      cases hnow
    · exact hall
    · rw [h.isCancelled_background hevents (h.accounts.registered t hmem).serial_lt, hlive] at hcancelled
      cases hcancelled

/-- Two chains that move a sprite back and forth, one of them twice. -/
def pushForth : Chain :=
  ⟨⟨"f", "when_flag_clicked", [], [], []⟩, [⟨"x", "change_x_by", [("delta_x", .int 3)], [], []⟩,
    ⟨"r", "repeat", [("TIMES", .int 1)], [], []⟩]⟩

def pushBack : Chain :=
  ⟨⟨"g", "when_flag_clicked", [], [], []⟩, [⟨"m", "move", [("x_position", .int (-5))], [], []⟩,
    ⟨"s", "say_for_seconds", [("message", .str "oh"), ("seconds", .int 1)], [], []⟩]⟩

/-- A cat that is about to run both of them. -/
noncomputable def pushed : Session ℝ :=
  (new { Config.default with maxSteps := 8 } 0).play
    [.control (.add .cat), .control (.setProgram 1 [pushForth, pushBack]), .control (.run 1)]

/-- In the middle of the two chains the cat has been moved by what each of them has done so far. -/
theorem pose_is_sum_of_additions_pushed :
    ∃ next, (pushed.play [.step 0, .step 1, .step 1, .step 0, .step 0]).stage.store.get? 1 = some next ∧
      next.quantity .x = Position.start.x +
        (addedBy .x (pushed.acts 0 [.step 0, .step 1, .step 1, .step 0, .step 0]) +
          addedBy .x (pushed.acts 1 [.step 0, .step 1, .step 1, .step 0, .step 0])) := by
  have hreachable : pushed.Reachable := ⟨{ Config.default with maxSteps := 8 }, 0, _, rfl⟩
  have hlive : pushed.live 1 = [⟨0, 1, ⟨1, 0⟩, .chain ⟨Cursor.start pushForth, .dispatch⟩, 0, 0⟩,
    ⟨1, 1, ⟨1, 0⟩, .chain ⟨Cursor.start pushBack, .dispatch⟩, 0, 1⟩] := rfl
  have hscripts : (∀ b ∈ pushForth.script 8, b.IsAdditive) ∧ ∀ b ∈ pushBack.script 8, b.IsAdditive := by
    decide +kernel
  have hstart (c : Chain) (hc : ∀ b ∈ c.script 8, b.IsAdditive) :
      (Work.chain ⟨Cursor.start c, .dispatch⟩ : Work ℝ).IsAdditive 8 := by
    refine ⟨rfl, ?_⟩
    intro b hb
    exact hc b (Cursor.dispatch_mem_plan_start.1 hb)
  have hadditive : ∀ t ∈ pushed.live 1, t.work.IsAdditive pushed.stage.config.maxSteps := by
    rw [hlive]
    intro t ht
    rcases List.mem_pair.1 ht with rfl | rfl
    · exact hstart pushForth hscripts.1
    · exact hstart pushBack hscripts.2
  have hevents : ∀ event ∈ ([.step 0, .step 1, .step 1, .step 0, .step 0] : List (Event ℝ)),
      event.IsBackground := by simp [Event.IsBackground]
  obtain ⟨sprite, hsprite, hx⟩ : ∃ sprite, pushed.stage.store.get? 1 = some sprite ∧
    sprite.quantity .x = Position.start.x := ⟨_, rfl, rfl⟩
  obtain ⟨next, hnext, hquantity⟩ := (pose_is_sum_of_additions hreachable hsprite hadditive hevents).1
  refine ⟨next, hnext, ?_⟩
  rw [hquantity, hx, hlive]
  simp

end SpriteStage.Session
