import SpriteStage.Proofs.Session.Precedes

namespace SpriteStage.Session

variable {α : Type}

/-- The chains of a sprite that are neither finished nor cancelled. -/
def live (s : Session α) (id : Nat) : List (Task α) :=
  s.tasks.filter (·.isLiveOn s.stage.registry id)

/-- In a session that comes about as many chains of a sprite are counted as are under way without
    having been cancelled. -/
theorem Consistent.active_eq_length_live {s : Session α} (h : s.Consistent) (id : Nat) :
    s.stage.registry.active id = (s.live id).length := by
  rw [h.accounts.active, List.countP_eq_length_filter, live]

/-- The live chains of a sprite are its chains under way whose token was not cancelled. -/
theorem mem_live_iff {s : Session α} {id : Nat} {t : Task α} : t ∈ s.live id ↔
    t ∈ s.tasks ∧ t.isChain = true ∧ t.sprite = id ∧ s.stage.registry.isCancelled t.token = false := by
  rw [live, List.mem_filter, Task.isLiveOn_eq_true_iff]

variable [Scalar α]

namespace Consistent

/-- Only the sign-off of a chain under way takes away from the count. It takes away one, and the
    chain never has a step again. -/
theorem active_handle_step {s : Session α} (h : s.Consistent) {n id : Nat}
    (hless : (s.handle (.step n)).stage.registry.active id < s.stage.registry.active id) :
    (s.handle (.step n)).stage.registry.active id + 1 = s.stage.registry.active id ∧
      (∃ t ∈ s.live id, t.id = n) ∧
      ∀ later, ((s.handle (.step n)).play later).task? n = none := by
  cases hfound : s.task? n with
  | none =>
    simp only [Session.handle, hfound] at hless
    omega
  | some t =>
    obtain ⟨ht, rfl⟩ := mem_of_task? hfound
    have hconsistent := h.handle (.step t.id)
    simp only [Session.handle, hfound] at hless hconsistent ⊢
    rw [stage_runTask] at hless ⊢
    rcases (h.stepped ht).active id with hsame | ⟨hchain, hsprite, hlive, hnext, hactive⟩
    · omega
    · refine ⟨by omega, ⟨t, mem_live_iff.2 ⟨ht, hchain, hsprite, hlive⟩, rfl⟩, ?_⟩
      intro later
      have hlt := h.accounts.id_lt t ht
      have hgone : (s.runTask t).task? t.id = none := by
        rw [task?_runTask hfound hlt, if_pos rfl, hnext]
        rfl
      exact (hconsistent.precedes_play later).task?_eq_none
        (Nat.lt_of_lt_of_le hlt (s.nextTask_le_runTask t)) hgone

/-- A chain under way stays under way until it is signed off or a control operation cancels it. -/
theorem live_handle {s : Session α} (h : s.Consistent) {id : Nat} {t : Task α} (ht : t ∈ s.live id)
    (event : Event α) :
    (∃ next ∈ (s.handle event).live id, next.id = t.id) ∨
      (event = .step t.id ∧ ∃ cursor how, t.work = .chain ⟨cursor, .signOff how⟩) ∨
      ∃ control, event = .control control ∧
        (s.handle event).stage.registry.isCancelled t.token = true := by
  obtain ⟨hmem, hchain, hsprite, hlive⟩ := mem_live_iff.1 ht
  have hfound := h.task?_eq_some_iff.2 ⟨hmem, rfl⟩
  have hlt := h.accounts.id_lt t hmem
  have hserial := (h.accounts.registered t hmem).serial_lt
  have hconsistent := h.handle event
  have hkept (hsame : (s.handle event).task? t.id = some t)
      (hlive : (s.handle event).stage.registry.isCancelled t.token = false) :
      ∃ next ∈ (s.handle event).live id, next.id = t.id :=
    ⟨t, mem_live_iff.2 ⟨(mem_of_task? hsame).1, hchain, hsprite, hlive⟩, rfl⟩
  cases event with
  | pass ms => exact Or.inl (hkept hfound hlive)
  | control control =>
    cases hcancelled : (s.handle (.control control)).stage.registry.isCancelled t.token with
    | true => exact Or.inr (Or.inr ⟨control, rfl, rfl⟩)
    | false => exact Or.inl (hkept ((task?_perform control s hlt).trans hfound) hcancelled)
  | step n =>
    cases hother : s.task? n with
    | none =>
      simp only [Session.handle, hother] at hkept ⊢
      exact Or.inl (hkept hfound hlive)
    | some other =>
      obtain ⟨hotherMem, rfl⟩ := mem_of_task? hother
      simp only [Session.handle, hother] at hkept hconsistent ⊢
      have hstepped := h.stepped hotherMem
      have hstill : (s.runTask other).stage.registry.isCancelled t.token = false := by
        rw [stage_runTask, hstepped.isCancelled hserial]
        exact hlive
      by_cases hid : t.id = other.id
      · have hsame : other = t := h.accounts.eq_of_id hotherMem hmem hid.symm
        subst hsame
        have hafter := task?_runTask hother hlt
        rw [if_pos rfl] at hafter
        cases hnext : (other.step s.now s.stage).next with
        | none => exact Or.inr (Or.inl ⟨rfl, hstepped.signOff_of_next hchain hlive hnext⟩)
        | some rest =>
          obtain ⟨work, pause⟩ := rest
          rw [hnext] at hafter
          have hgoesOn := hstepped.isChain_of_next hnext (other.work_resume work pause s.now s.nextStamp)
          refine Or.inl ⟨_, mem_live_iff.2 ⟨(mem_of_task? hafter).1, ?_, ?_, ?_⟩, other.id_resume ..⟩
          · rw [hgoesOn, hchain]
          · rw [Task.sprite_resume, hsprite]
          · rw [Task.token_resume, hstill]
      · exact Or.inl (hkept ((task?_runTask hother hlt).trans ((if_neg hid).trans hfound)) hstill)

end Consistent

/-- A sprite is flagged as running exactly while its count of running chains is not zero, and the
    count is the number of its chains that are neither finished nor cancelled. A chain stays among
    them until it is signed off or a control operation cancels it, and its sign-off is counted
    once. -/
theorem running_iff_active_and_active_eq_live {s : Session α} (hs : s.Reachable) {id : Nat}
    {sprite : Sprite α} (hsprite : s.stage.store.get? id = some sprite) :
    (sprite.isRunning = true ↔ 0 < s.stage.registry.active id) ∧
      s.stage.registry.active id = (s.live id).length ∧
      (∀ n, (s.handle (.step n)).stage.registry.active id < s.stage.registry.active id →
        (s.handle (.step n)).stage.registry.active id + 1 = s.stage.registry.active id ∧
          (∃ t ∈ s.live id, t.id = n) ∧
          ∀ later, ((s.handle (.step n)).play later).task? n = none) ∧
      ∀ t ∈ s.live id, 0 < s.stage.registry.active id ∧ ∀ event : Event α,
        (∃ next ∈ (s.handle event).live id, next.id = t.id) ∨
          (event = .step t.id ∧ ∃ cursor how, t.work = .chain ⟨cursor, .signOff how⟩) ∨
          ∃ control, event = .control control ∧
            (s.handle event).stage.registry.isCancelled t.token = true := by
  have h := hs.consistent
  have hcount := h.active_eq_length_live id
  refine ⟨?_, hcount, fun n => h.active_handle_step, ?_⟩
  · apply h.sound.running id
    rw [Store.running?, hsprite]
    rfl
  · intro t ht
    rw [hcount]
    exact ⟨List.length_pos_of_mem ht, h.live_handle ht⟩

/-- A dog with two chains under way, the first of which is about to be signed off. -/
def signingOff : Session Float :=
  let program : Program := [⟨⟨"f", "when_flag_clicked", [], [], []⟩, []⟩,
    ⟨⟨"g", "when_flag_clicked", [], [], []⟩, [⟨"w", "wait", [("seconds", .int 1)], [], []⟩]⟩]
  (new Config.default 0).play
    [.control (.add .dog), .control (.setProgram 1 program), .control (.run 1), .step 0, .step 0]

/-- The sign-off of the first of two chains counts it off and leaves the flag standing. -/
theorem running_iff_active_and_active_eq_live_signingOff :
    ∃ sprite, signingOff.stage.store.get? 1 = some sprite ∧
      (sprite.isRunning = true ↔ 0 < signingOff.stage.registry.active 1) ∧
      signingOff.stage.registry.active 1 = (signingOff.live 1).length ∧
      (signingOff.handle (.step 0)).stage.registry.active 1 + 1 = signingOff.stage.registry.active 1 ∧
      ∀ later, ((signingOff.handle (.step 0)).play later).task? 0 = none := by
  have hreachable : signingOff.Reachable := ⟨Config.default, 0, _, rfl⟩
  have hthere : (signingOff.stage.store.get? 1).isSome = true := by decide
  obtain ⟨sprite, hsprite⟩ := Option.isSome_iff_exists.1 hthere
  obtain ⟨hflag, hcount, hless, _⟩ := running_iff_active_and_active_eq_live hreachable hsprite
  obtain ⟨hone, _, hgone⟩ := hless 0 (by decide)
  exact ⟨sprite, hsprite, hflag, hcount, hone, hgone⟩

end SpriteStage.Session
