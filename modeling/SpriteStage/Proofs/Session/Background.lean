import SpriteStage.Proofs.Session.ActiveChains
import SpriteStage.Proofs.Session.UndoneRun

namespace SpriteStage.Session

variable {α : Type} [Scalar α]

namespace Consistent

/-- Steps and time cancel no token that was given out. -/
theorem isCancelled_handle_background {s : Session α} (h : s.Consistent) {event : Event α}
    (hevent : event.IsBackground) {token : Token} (hserial : token.serial < s.stage.registry.nextSerial) :
    (s.handle event).stage.registry.isCancelled token = s.stage.registry.isCancelled token := by
  cases event with
  | control control => exact hevent.elim
  | pass ms => rfl
  | step n =>
    simp only [Session.handle]
    cases ht : s.task? n with
    | none => rfl
    | some t =>
      dsimp only
      rw [stage_runTask]
      exact (h.stepped (mem_of_task? ht).1).isCancelled hserial

/-- Tasks that are left to themselves cancel nothing. -/
theorem isCancelled_background {s : Session α} (h : s.Consistent) {events : List (Event α)}
    (hevents : ∀ event ∈ events, event.IsBackground) {token : Token}
    (hserial : token.serial < s.stage.registry.nextSerial) :
    (s.play events).stage.registry.isCancelled token = s.stage.registry.isCancelled token := by
  induction events generalizing s with
  | nil => rfl
  | cons event rest ih =>
    have hle := (h.precedes_handle event).grows.serial_le
    rw [play_cons, ih (h.handle event) (fun other hother => hevents other (List.mem_cons_of_mem _ hother))
      (by omega)]
    exact h.isCancelled_handle_background (hevents event List.mem_cons_self) hserial

/-- The only tasks that come in are timers. -/
theorem id_lt_of_background {s : Session α} (h : s.Consistent) {event : Event α}
    (hevent : event.IsBackground) {t : Task α} (ht : t ∈ (s.handle event).tasks)
    (hchain : t.isChain = true) : t.id < s.nextTask := by
  cases event with
  | control control => exact hevent.elim
  | pass ms => exact h.accounts.id_lt t ht
  | step n =>
    simp only [Session.handle] at ht
    cases hfound : s.task? n with
    | none =>
      rw [hfound] at ht
      exact h.accounts.id_lt t ht
    | some old =>
      rw [hfound] at ht
      dsimp only at ht
      rw [runTask_eq] at ht
      generalize old.step s.now s.stage = result at ht
      obtain ⟨stage, next, timer⟩ := result
      let after := next.elim (s.conclude old stage) fun left => s.proceed old stage left.1 left.2
      have hafter (hmem : t ∈ after.tasks) : t.id < s.nextTask := by
        cases next with
        | none => exact h.accounts.id_lt t (List.mem_filter.1 hmem).1
        | some left =>
          obtain ⟨other, hother, rfl⟩ := List.mem_map.1 hmem
          have hlt := h.accounts.id_lt other hother
          split
          · rwa [Task.id_resume]
          · exact hlt
      cases timer with
      | none => exact hafter ht
      | some delay =>
        rcases List.mem_append.1 ht with hold | hnew
        · exact hafter hold
        · rw [List.mem_singleton.1 hnew] at hchain
          cases hchain

/-- A chain under way was under way before, with the same work or with what a step left of it. -/
theorem live_background {s : Session α} (h : s.Consistent) {event : Event α}
    (hevent : event.IsBackground) {id : Nat} {next : Task α} (hnext : next ∈ (s.handle event).live id) :
    ∃ t ∈ s.live id, t.id = next.id ∧ (next.work = t.work ∨
      ∃ pause, (t.step s.now s.stage).next = some (next.work, pause)) := by
  obtain ⟨hmem, hchain, hsprite, hlive⟩ := mem_live_iff.1 hnext
  have hlt := h.id_lt_of_background hevent hmem hchain
  have hprecedes := h.precedes_handle event
  have hfound := (h.handle event).task?_eq_some_iff.2 ⟨hmem, rfl⟩
  obtain ⟨t, ht, hsprite', htoken, hchain'⟩ := hprecedes.task? next.id next hlt hfound
  obtain ⟨htMem, htId⟩ := mem_of_task? ht
  have hserial := (h.accounts.registered t htMem).serial_lt
  have hstill : s.stage.registry.isCancelled t.token = false := by
    rw [← h.isCancelled_handle_background hevent hserial, htoken]
    exact hlive
  refine ⟨t, mem_live_iff.2 ⟨htMem, hchain'.trans hchain, hsprite'.trans hsprite, hstill⟩, htId, ?_⟩
  by_cases hother : event ≠ .step next.id
  · rw [task?_handle hlt hother, ht, Option.some.injEq] at hfound
    exact Or.inl (congrArg Task.work hfound.symm)
  · rw [not_not] at hother
    subst hother
    rw [← htId] at ht hfound hlt
    simp only [Session.handle, ht] at hfound
    rw [task?_runTask ht hlt, if_pos rfl] at hfound
    obtain ⟨⟨work, pause⟩, hleft, rfl⟩ := Option.map_eq_some_iff.1 hfound
    refine Or.inr ⟨pause, ?_⟩
    rw [Task.work_resume]
    exact hleft

end Consistent

end SpriteStage.Session
