import Mathlib.Data.List.Nodup
import SpriteStage.Proofs.Task.Step

namespace SpriteStage

variable {α : Type}

/-- The task is a chain of the sprite that was not cancelled. -/
def Task.isLiveOn (r : TaskRegistry) (id : Nat) (t : Task α) : Bool :=
  t.isChain && t.sprite = id && !r.isCancelled t.token

/-- A live chain of a sprite is a chain of it whose token was not cancelled. -/
theorem Task.isLiveOn_eq_true_iff {r : TaskRegistry} {id : Nat} {t : Task α} :
    t.isLiveOn r id = true ↔ t.isChain = true ∧ t.sprite = id ∧ r.isCancelled t.token = false := by
  simp only [isLiveOn, Bool.and_eq_true, decide_eq_true_eq, Bool.not_eq_true', and_assoc]

/-- The task watches a token of its sprite that was given out, and a chain does not watch the token
    of the speech timers. -/
structure Task.Registered (r : TaskRegistry) (t : Task α) : Prop where
  sprite : t.token.sprite = t.sprite
  serial_lt : t.token.serial < r.nextSerial
  not_speech : t.isChain = true → ∀ work, r.work? t.sprite = some work → work.speech ≠ t.token.serial

/-- A token that was given out for a task stays given out. -/
theorem Task.Registered.grows {before after : TaskRegistry} {t : Task α} (ht : t.Registered before)
    (hgrows : before.Grows after) : t.Registered after := by
  refine ⟨ht.sprite, Nat.lt_of_lt_of_le ht.serial_lt hgrows.serial_le, ?_⟩
  intro hchain work hwork
  have hlt := ht.serial_lt
  rcases hgrows.speech t.sprite work hwork with hnew | ⟨old, hold, hsame⟩
  · omega
  · rw [← hsame]
    exact ht.not_speech hchain old hold

namespace TaskRegistry

/-- The tasks are told apart by their ids, all of them are registered, and the registry counts the
    chains among them that are under way. -/
structure Accounts (r : TaskRegistry) (tasks : List (Task α)) (nextTask : Nat) : Prop where
  nodup : (tasks.map (·.id)).Nodup
  id_lt : ∀ t ∈ tasks, t.id < nextTask
  registered : ∀ t ∈ tasks, t.Registered r
  active : ∀ id, r.active id = tasks.countP (·.isLiveOn r id)

namespace Accounts

/-- Without tasks the books of an empty registry are right. -/
theorem empty : Accounts .empty ([] : List (Task α)) 0 :=
  ⟨List.nodup_nil, nofun, nofun, fun _ => rfl⟩

/-- A task is the only one with its id. -/
theorem eq_of_id {r : TaskRegistry} {tasks : List (Task α)} {nextTask : Nat}
    (h : r.Accounts tasks nextTask) {t other : Task α} (ht : t ∈ tasks) (hother : other ∈ tasks)
    (hid : t.id = other.id) : t = other :=
  List.inj_on_of_nodup_map h.nodup ht hother hid

/-- Of the tasks with a property, a task that goes takes itself off the count. -/
private theorem countP_remove {tasks : List (Task α)} (hnodup : (tasks.map (·.id)).Nodup)
    {t : Task α} (ht : t ∈ tasks) (p : Task α → Bool) :
    tasks.countP p = (tasks.filter (·.id ≠ t.id)).countP p + if p t then 1 else 0 := by
  induction tasks with
  | nil => cases ht
  | cons first rest ih =>
    rw [List.map_cons, List.nodup_cons] at hnodup
    obtain ⟨hfirst, hrest⟩ := hnodup
    rcases List.mem_cons.1 ht with heq | hmem
    · subst heq
      have hothers : rest.filter (·.id ≠ t.id) = rest := by
        apply List.filter_eq_self.2
        intro other hother
        have hne : other.id ≠ t.id := fun hid => hfirst (hid ▸ List.mem_map_of_mem hother)
        simpa using hne
      rw [List.filter_cons_of_neg (by simp), hothers, List.countP_cons]
    · have hne : first.id ≠ t.id := fun hid => hfirst (hid ▸ List.mem_map_of_mem hmem)
      rw [List.filter_cons_of_pos (by simpa using hne), List.countP_cons, List.countP_cons,
        ih hrest hmem]
      omega

/-- A new registry keeps the books if it counts the same tasks anew. -/
theorem recount {before after : TaskRegistry} {tasks : List (Task α)} {nextTask : Nat}
    (h : before.Accounts tasks nextTask) (hgrows : before.Grows after)
    (hactive : ∀ id, after.active id = tasks.countP (·.isLiveOn after id)) :
    after.Accounts tasks nextTask :=
  ⟨h.nodup, h.id_lt, fun t ht => (h.registered t ht).grows hgrows, hactive⟩

/-- Registering a sprite changes nothing for the tasks under way. -/
theorem isLiveOn_ensure {r : TaskRegistry} {t : Task α} (ht : t.Registered r) (id other : Nat) :
    t.isLiveOn (r.ensure id) other = t.isLiveOn r other := by
  rw [Task.isLiveOn, isCancelled_ensure id ht.serial_lt, ← Task.isLiveOn]

theorem ensure {r : TaskRegistry} {tasks : List (Task α)} {nextTask : Nat}
    (h : r.Accounts tasks nextTask) (id : Nat) : (r.ensure id).Accounts tasks nextTask := by
  apply h.recount (.ensure r id)
  intro other
  have hcount : tasks.countP (·.isLiveOn (r.ensure id) other) = tasks.countP (·.isLiveOn r other) := by
    apply List.countP_congr
    intro t ht
    rw [isLiveOn_ensure (h.registered t ht)]
  rw [hcount, ← h.active, active_ensure]

/-- A new task has an id of its own. -/
private theorem nodup_append {r : TaskRegistry} {tasks : List (Task α)} {nextTask : Nat}
    (h : r.Accounts tasks nextTask) {t : Task α} (hid : t.id = nextTask) :
    ((tasks ++ [t]).map (·.id)).Nodup := by
  rw [List.map_append, List.nodup_append]
  refine ⟨h.nodup, by simp, ?_⟩
  intro a ha b hb hab
  obtain ⟨other, hother, rfl⟩ := List.mem_map.1 ha
  have hlt := h.id_lt other hother
  rw [List.map_singleton, List.mem_singleton] at hb
  omega

/-- The id of a new task is below the next one to be given out. -/
private theorem id_lt_append {r : TaskRegistry} {tasks : List (Task α)} {nextTask : Nat}
    (h : r.Accounts tasks nextTask) {t : Task α} (hid : t.id = nextTask) :
    ∀ other ∈ tasks ++ [t], other.id < nextTask + 1 := by
  intro other hother
  rcases List.mem_append.1 hother with hold | hnew
  · exact Nat.lt_succ_of_lt (h.id_lt other hold)
  · rw [List.mem_singleton.1 hnew, hid]
    exact Nat.lt_succ_self _

/-- Starting a chain on a sprite and adding the task that runs it. -/
theorem startChain {r : TaskRegistry} {tasks : List (Task α)} {nextTask : Nat}
    (h : r.Accounts tasks nextTask) (hr : r.WellFormed) {t : Task α} (hid : t.id = nextTask)
    (hchain : t.isChain = true) (htoken : t.token = (r.startChain t.sprite).chainToken t.sprite) :
    (r.startChain t.sprite).Accounts (tasks ++ [t]) (nextTask + 1) := by
  have hwork := r.work?_startChain t.sprite t.sprite
  rw [if_pos rfl] at hwork
  have hserial : t.token = ⟨t.sprite, (r.entry t.sprite).chains⟩ := by
    rw [htoken, chainToken, hwork]
    rfl
  obtain ⟨hissued, _, hne⟩ := hr.entry t.sprite
  refine ⟨nodup_append h hid, id_lt_append h hid, ?_, ?_⟩
  · intro other hother
    rcases List.mem_append.1 hother with hold | hnew
    · exact (h.registered other hold).grows (.startChain r t.sprite)
    · rw [List.mem_singleton.1 hnew]
      refine ⟨by rw [hserial], by rw [hserial]; exact hissued, ?_⟩
      intro _ work hfound
      rw [hwork] at hfound
      cases hfound
      rw [hserial]
      exact hne.symm
  · intro id
    have hcount : tasks.countP (·.isLiveOn (r.startChain t.sprite) id) =
        tasks.countP (·.isLiveOn r id) := by
      apply List.countP_congr
      intro other hother
      rw [Task.isLiveOn, isCancelled_startChain _ (h.registered other hother).serial_lt,
        ← Task.isLiveOn]
    have hlive : (r.startChain t.sprite).isCancelled t.token = false := by
      rw [isCancelled_eq_false_iff, hserial]
      exact ⟨_, hwork, Or.inl rfl⟩
    rw [List.countP_append, hcount, ← h.active, List.countP_singleton, Task.isLiveOn, hchain, hlive,
      active_startChain]
    by_cases hsprite : id = t.sprite
    · simp [hsprite]
    · simp [hsprite, Ne.symm hsprite]

/-- Adding a speech timer. -/
theorem addTimer {r : TaskRegistry} {tasks : List (Task α)} {nextTask : Nat}
    (h : r.Accounts tasks nextTask) {t : Task α} (hid : t.id = nextTask) (ht : t.Registered r)
    (htimer : t.isChain = false) : r.Accounts (tasks ++ [t]) (nextTask + 1) := by
  refine ⟨nodup_append h hid, id_lt_append h hid, ?_, ?_⟩
  · intro other hother
    rcases List.mem_append.1 hother with hold | hnew
    · exact h.registered other hold
    · rwa [List.mem_singleton.1 hnew]
  · intro id
    have hdead : t.isLiveOn r id = false := by rw [Task.isLiveOn, htimer]; rfl
    rw [List.countP_append, List.countP_singleton, hdead, h.active]
    rfl

/-- Stopping the chains of one sprite and nothing else. -/
private theorem stop {before after : TaskRegistry} {tasks : List (Task α)} {nextTask : Nat}
    (h : before.Accounts tasks nextTask) (hgrows : before.Grows after) {id : Nat}
    (hidle : after.active id = 0)
    (hstopped : ∀ t ∈ tasks, t.isChain = true → t.sprite = id → after.isCancelled t.token = true)
    (hactive : ∀ other, other ≠ id → after.active other = before.active other)
    (hothers : ∀ token, token.sprite ≠ id → after.isCancelled token = before.isCancelled token) :
    after.Accounts tasks nextTask := by
  apply h.recount hgrows
  intro other
  by_cases hid : other = id
  · subst hid
    rw [hidle, eq_comm, List.countP_eq_zero]
    intro t ht hlive
    obtain ⟨hchain, hsprite, hcancelled⟩ := Task.isLiveOn_eq_true_iff.1 hlive
    rw [hstopped t ht hchain hsprite] at hcancelled
    cases hcancelled
  · rw [hactive other hid, h.active]
    apply List.countP_congr
    intro t ht
    by_cases hsprite : t.sprite = other
    · have hne : t.token.sprite ≠ id := by rwa [(h.registered t ht).sprite, hsprite]
      rw [Task.isLiveOn, Task.isLiveOn, hothers t.token hne]
    · simp [Task.isLiveOn, hsprite]

/-- Cancelling the chains of a sprite sets its count to zero, as no chain of it is live any more. -/
theorem cancelChains {r : TaskRegistry} {tasks : List (Task α)} {nextTask : Nat}
    (h : r.Accounts tasks nextTask) (id : Nat) : (r.cancelChains id).Accounts tasks nextTask := by
  apply h.stop (.cancelChains r id) (active_cancelChains_self r id)
  · intro t ht hchain hsprite
    have hregistered := h.registered t ht
    rw [← hsprite, ← hregistered.sprite]
    apply isCancelled_cancelChains_self hregistered.serial_lt
    rw [hregistered.sprite]
    exact hregistered.not_speech hchain
  · intro other hother
    exact active_cancelChains_of_ne r hother
  · intro token htoken
    exact isCancelled_cancelChains_of_ne r htoken

theorem cancelSprite {r : TaskRegistry} {tasks : List (Task α)} {nextTask : Nat}
    (h : r.Accounts tasks nextTask) (id : Nat) : (r.cancelSprite id).Accounts tasks nextTask := by
  apply h.stop (.cancelSprite r id) (active_cancelSprite_self r id)
  · intro t ht _ hsprite
    rw [← hsprite, ← (h.registered t ht).sprite]
    exact isCancelled_cancelSprite_self r t.token
  · intro other hother
    exact active_cancelSprite_of_ne r hother
  · intro token htoken
    exact isCancelled_cancelSprite_of_ne r htoken

theorem cancelAll {r : TaskRegistry} {tasks : List (Task α)} {nextTask : Nat}
    (h : r.Accounts tasks nextTask) : r.cancelAll.Accounts tasks nextTask := by
  apply h.recount (.cancelAll r)
  intro id
  have hnone : tasks.countP (·.isLiveOn r.cancelAll id) = 0 := by
    rw [List.countP_eq_zero]
    intro t _ hlive
    obtain ⟨_, _, hcancelled⟩ := Task.isLiveOn_eq_true_iff.1 hlive
    rw [isCancelled_cancelAll] at hcancelled
    cases hcancelled
  rw [hnone]
  rfl

/-- Dropping a task that is no chain under way. -/
theorem remove {r : TaskRegistry} {tasks : List (Task α)} {nextTask : Nat}
    (h : r.Accounts tasks nextTask) {t : Task α} (ht : t ∈ tasks)
    (hdead : t.isChain = true → r.isCancelled t.token = true) :
    r.Accounts (tasks.filter (·.id ≠ t.id)) nextTask := by
  refine ⟨h.nodup.sublist (List.filter_sublist.map _), ?_, ?_, ?_⟩
  · intro other hother
    exact h.id_lt other (List.mem_filter.1 hother).1
  · intro other hother
    exact h.registered other (List.mem_filter.1 hother).1
  · intro id
    have hlive : t.isLiveOn r id = false := by
      rw [← Bool.not_eq_true, Task.isLiveOn_eq_true_iff]
      rintro ⟨hchain, _, hcancelled⟩
      rw [hdead hchain] at hcancelled
      cases hcancelled
    rw [h.active, countP_remove h.nodup ht, hlive]
    rfl

/-- Signing a chain off that is under way counts it once and drops it. -/
theorem finishChain {r : TaskRegistry} {tasks : List (Task α)} {nextTask : Nat}
    (h : r.Accounts tasks nextTask) {t : Task α} (ht : t ∈ tasks) (hchain : t.isChain = true)
    (hlive : r.isCancelled t.token = false) :
    (r.finishChain t.sprite t.token).Accounts (tasks.filter (·.id ≠ t.id)) nextTask := by
  have hgrows := Grows.finishChain r t.sprite hlive
  refine ⟨h.nodup.sublist (List.filter_sublist.map _), ?_, ?_, ?_⟩
  · intro other hother
    exact h.id_lt other (List.mem_filter.1 hother).1
  · intro other hother
    exact (h.registered other (List.mem_filter.1 hother).1).grows hgrows
  · intro id
    have hsame : (tasks.filter (·.id ≠ t.id)).countP (·.isLiveOn (r.finishChain t.sprite t.token) id) =
        (tasks.filter (·.id ≠ t.id)).countP (·.isLiveOn r id) := by
      apply List.countP_congr
      intro other _
      rw [Task.isLiveOn, isCancelled_finishChain, ← Task.isLiveOn]
    have hcount := countP_remove h.nodup ht (·.isLiveOn r id)
    rw [← h.active] at hcount
    rw [hsame, active_finishChain hlive]
    by_cases hid : id = t.sprite
    · subst hid
      have hcounted : t.isLiveOn r t.sprite = true :=
        Task.isLiveOn_eq_true_iff.2 ⟨hchain, rfl, hlive⟩
      rw [hcounted, if_pos rfl] at hcount
      rw [if_pos rfl, hcount]
      rfl
    · have hother : t.isLiveOn r id = false := by simp [Task.isLiveOn, Ne.symm hid]
      rw [hother] at hcount
      rw [if_neg hid, hcount]
      rfl

/-- Giving tasks other work of the same sort. -/
theorem rework {r : TaskRegistry} {tasks : List (Task α)} {nextTask : Nat}
    (h : r.Accounts tasks nextTask) {f : Task α → Task α}
    (hf : ∀ t ∈ tasks, (f t).id = t.id ∧ (f t).sprite = t.sprite ∧ (f t).token = t.token ∧
      (f t).isChain = t.isChain) : r.Accounts (tasks.map f) nextTask := by
  refine ⟨?_, ?_, ?_, ?_⟩
  · have hids : tasks.map ((·.id) ∘ f) = tasks.map (·.id) := List.map_congr_left fun t ht => (hf t ht).1
    rw [List.map_map, hids]
    exact h.nodup
  · intro other hother
    obtain ⟨t, ht, rfl⟩ := List.mem_map.1 hother
    rw [(hf t ht).1]
    exact h.id_lt t ht
  · intro other hother
    obtain ⟨t, ht, rfl⟩ := List.mem_map.1 hother
    obtain ⟨_, hsprite, htoken, hchain⟩ := hf t ht
    obtain ⟨hregistered, hserial, hspeech⟩ := h.registered t ht
    exact ⟨by rw [htoken, hsprite, hregistered], by rwa [htoken], by rwa [htoken, hsprite, hchain]⟩
  · intro id
    rw [h.active, List.countP_map]
    apply List.countP_congr
    intro t ht
    obtain ⟨_, hsprite, htoken, hchain⟩ := hf t ht
    rw [Function.comp_apply, Task.isLiveOn, Task.isLiveOn, hsprite, htoken, hchain]

end Accounts

end TaskRegistry

end SpriteStage
