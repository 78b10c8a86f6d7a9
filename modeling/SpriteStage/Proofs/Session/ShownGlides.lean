import SpriteStage.Proofs.Session.ActiveChains
import SpriteStage.Proofs.Session.Snapshots
import SpriteStage.Proofs.Stage.Reset
import SpriteStage.Proofs.Task.Animation

namespace SpriteStage

variable {α : Type}

namespace Store

/-- A sprite that is new shows no glide. -/
theorem animated?_add [Scalar α] (kind : SpriteKind) {store : Store α} {id : Nat}
    (hshown : (store.add kind).animated? id = some true) : store.animated? id = some true := by
  unfold animated? at hshown ⊢
  rw [get?_add] at hshown
  cases hsprite : store.get? id with
  | some sprite => rwa [hsprite] at hshown
  | none =>
    rw [hsprite, Option.none_or] at hshown
    split at hshown <;> cases hshown

/-- A sprite at rest shows no glide, so one that shows a glide is another. -/
theorem animated?_update_idle {store : Store α} {id other : Nat}
    (hshown : (store.update id Sprite.idle).animated? other = some true) :
    other ≠ id ∧ store.animated? other = some true := by
  unfold animated? at hshown ⊢
  rw [get?_update] at hshown
  split at hshown
  case isTrue =>
    rw [Option.map_map] at hshown
    obtain ⟨_, _, hnone⟩ := Option.map_eq_some_iff.1 hshown
    cases hnone
  case isFalse hother => exact ⟨hother, hshown⟩

/-- After a reset no sprite shows a glide. -/
theorem WellFormed.animated?_resetAll [Scalar α] {store : Store α} (h : store.WellFormed) (id : Nat) :
    store.resetAll.animated? id ≠ some true := by
  unfold animated?
  rw [h.get?_resetAll, Option.map_map]
  intro hshown
  obtain ⟨_, _, hnone⟩ := Option.map_eq_some_iff.1 hshown
  cases hnone

end Store

namespace Session

/-- Every sprite that shows a glide has a chain under way that is in the middle of one. -/
def ShowsGlides (s : Session α) : Prop :=
  ∀ id, s.stage.store.animated? id = some true → ∃ t ∈ s.live id, t.work.isGliding = true

variable [Scalar α]

/-- A sprite that shows a glide after a move showed it before, and the move cancels no token of it. -/
theorem Move.animated?_store {s after : Session α} (hwell : s.stage.store.WellFormed)
    (hmove : Move s after) {id : Nat} (hshown : after.stage.store.animated? id = some true) :
    s.stage.store.animated? id = some true ∧ ∀ token : Token, token.sprite = id →
      token.serial < s.stage.registry.nextSerial →
      after.stage.registry.isCancelled token = s.stage.registry.isCancelled token := by
  cases hmove with
  | edit other hedit =>
    refine ⟨(Stage.animated?_commit_of_kept hedit.animation _ _ _).symm.trans hshown, fun token _ _ => ?_⟩
    exact congrArg (·.isCancelled token) (Stage.registry_commit other _ s.stage)
  | add kind =>
    have hadded := (Stage.animated?_react _ id).symm.trans hshown
    exact ⟨Store.animated?_add kind hadded, fun _ _ _ => rfl⟩
  | select other =>
    rw [onStage, Stage.select, Store.animated?, Store.get?_select] at hshown
    exact ⟨hshown, fun _ _ _ => rfl⟩
  | unselect => exact ⟨hshown, fun _ _ _ => rfl⟩
  | movePointer pointer => exact ⟨hshown, fun _ _ _ => rfl⟩
  | delete other =>
    simp only [onStage, Stage.delete] at hshown ⊢
    split at hshown
    case isTrue hknown =>
      rw [Store.animated?, Store.get?_remove] at hshown
      split at hshown
      case isTrue => cases hshown
      case isFalse hother =>
        refine ⟨hshown, ?_⟩
        rintro token rfl _
        rw [if_pos hknown]
        exact TaskRegistry.isCancelled_cancelSprite_of_ne _ hother
    case isFalse hunknown =>
      rw [if_neg hunknown]
      exact ⟨hshown, fun _ _ _ => rfl⟩
  | undo =>
    simp only [onStage, Stage.undoLast] at hshown ⊢
    split at hshown
    case h_1 => exact ⟨hshown, fun _ _ _ => rfl⟩
    case h_2 entry rest hpop =>
      rw [Stage.animated?_commit] at hshown
      split at hshown
      case isTrue =>
        obtain ⟨_, _, hnone⟩ := Option.map_eq_some_iff.1 hshown
        cases hnone
      case isFalse hother =>
        refine ⟨(Store.animated?_update_idle hshown).2, ?_⟩
        rintro token rfl _
        rw [Stage.registry_commit]
        exact TaskRegistry.isCancelled_cancelChains_of_ne _ hother
  | reset =>
    exact absurd ((Stage.animated?_react _ id).symm.trans hshown) (hwell.animated?_resetAll id)
  | switchHero enabled =>
    cases enabled with
    | true =>
      have hswitched : ({ s.stage with hero := s.stage.hero.switch true } : Stage α).store.animated? id =
          some true := (Stage.animated?_react _ id).symm.trans hshown
      exact ⟨hswitched, fun _ _ _ => rfl⟩
    | false => exact ⟨hshown, fun _ _ _ => rfl⟩
  | @halt other hknown =>
    -- The halted sprite is at rest, so its cancelled chains leave nothing to be shown.
    obtain ⟨hother, hbefore⟩ := Store.animated?_update_idle hshown
    refine ⟨hbefore, ?_⟩
    rintro token rfl _
    exact TaskRegistry.isCancelled_cancelChains_of_ne _ hother
  | @start other hknown chain =>
    have hbefore : s.stage.store.animated? id = some true := by
      refine (Stage.animated?_commit_of_kept ?_ other id
        { s.stage with registry := s.stage.registry.startChain other }).symm.trans hshown
      exact fun _ => rfl
    refine ⟨hbefore, fun token _ hserial => ?_⟩
    rw [registry_startChain]
    exact TaskRegistry.isCancelled_startChain other hserial

/-- No move ends a task. -/
theorem Move.mem_tasks {s after : Session α} (hmove : Move s after) {t : Task α} (ht : t ∈ s.tasks) :
    t ∈ after.tasks := by
  cases hmove with
  | start => exact List.mem_append_left _ ht
  | _ => exact ht

/-- A move that cuts a glide short takes the mark off its sprite. -/
theorem ShowsGlides.move {s after : Session α} (h : s.ShowsGlides) (hs : s.Consistent)
    (hwell : s.stage.store.WellFormed) (hmove : Move s after) : after.ShowsGlides := by
  intro id hshown
  obtain ⟨hbefore, hkept⟩ := hmove.animated?_store hwell hshown
  obtain ⟨t, ht, hglide⟩ := h id hbefore
  obtain ⟨hmem, hchain, hsprite, hlive⟩ := mem_live_iff.1 ht
  have hregistered := hs.accounts.registered t hmem
  have hstill := hkept t.token (hregistered.sprite.trans hsprite) hregistered.serial_lt
  exact ⟨t, mem_live_iff.2 ⟨hmove.mem_tasks hmem, hchain, hsprite, hstill.trans hlive⟩, hglide⟩

/-- A chain under way is still under way after a step of another task. -/
theorem Consistent.mem_live_runTask {s : Session α} (h : s.Consistent) {t other : Task α} {id : Nat}
    (ht : t ∈ s.tasks) (hother : other ∈ s.live id) (hne : other.id ≠ t.id) :
    other ∈ (s.runTask t).live id := by
  obtain ⟨hmem, hchain, hsprite, hlive⟩ := mem_live_iff.1 hother
  have hfound := task?_runTask (h.task?_eq_some_iff.2 ⟨ht, rfl⟩) (h.accounts.id_lt other hmem)
  rw [if_neg hne, h.task?_eq_some_iff.2 ⟨hmem, rfl⟩] at hfound
  have hstill := (h.stepped ht).isCancelled (h.accounts.registered other hmem).serial_lt
  rw [← stage_runTask] at hstill
  exact mem_live_iff.2 ⟨(mem_of_task? hfound).1, hchain, hsprite, hstill.trans hlive⟩

/-- A chain that a step leaves in the middle of a glide is under way. -/
theorem Consistent.mem_live_of_isGliding {s : Session α} (h : s.Consistent) {t : Task α}
    (ht : t ∈ s.tasks) (hglide : (t.step s.now s.stage).isGliding = true) :
    ∃ next ∈ (s.runTask t).live t.sprite, next.work.isGliding = true := by
  have hlive : s.stage.registry.isCancelled t.token = false := by
    by_contra hcancelled
    rw [Bool.not_eq_false] at hcancelled
    rw [Task.step_of_cancelled hcancelled] at hglide
    cases hglide
  have hfound := task?_runTask (h.task?_eq_some_iff.2 ⟨ht, rfl⟩) (h.accounts.id_lt t ht)
  have hstill := (h.stepped ht).isCancelled (h.accounts.registered t ht).serial_lt
  rw [← stage_runTask] at hstill
  obtain ⟨⟨work, pause⟩, hnext, hglide⟩ := (Option.any_eq_true _ _).1 hglide
  rw [if_pos rfl, hnext, Option.map_some] at hfound
  let next := t.resume work pause s.now s.nextStamp
  have hwork : next.work.isGliding = true := by rwa [Task.work_resume]
  refine ⟨next, mem_live_iff.2 ⟨(mem_of_task? hfound).1, Task.isChain_of_isGliding hwork, ?_, ?_⟩, hwork⟩
  · exact t.sprite_resume work pause _ _
  · rw [Task.token_resume, hstill, hlive]

/-- A step leaves no mark without its glide. -/
theorem ShowsGlides.runTask {s : Session α} (h : s.ShowsGlides) (hs : s.Consistent) {t : Task α}
    (ht : t ∈ s.tasks) : (s.runTask t).ShowsGlides := by
  intro id hshown
  rw [stage_runTask] at hshown
  by_cases hid : id = t.sprite
  · subst hid
    rcases Task.animated?_step_self hshown with hglide | ⟨hbefore, hnot⟩
    · exact hs.mem_live_of_isGliding ht hglide
    · obtain ⟨other, hother, hglide⟩ := h t.sprite hbefore
      have hne : other.id ≠ t.id := by
        intro hsame
        obtain ⟨hmem, _, _, hlive⟩ := mem_live_iff.1 hother
        have heq := hs.accounts.eq_of_id hmem ht hsame
        exact hnot ⟨heq ▸ hlive, heq ▸ hglide⟩
      exact ⟨other, hs.mem_live_runTask ht hother hne, hglide⟩
  · rw [Task.animated?_step_of_ne hid] at hshown
    obtain ⟨other, hother, hglide⟩ := h id hshown
    have hne : other.id ≠ t.id := by
      intro hsame
      obtain ⟨hmem, _, hsprite, _⟩ := mem_live_iff.1 hother
      exact hid (hs.accounts.eq_of_id hmem ht hsame ▸ hsprite).symm
    exact ⟨other, hs.mem_live_runTask ht hother hne, hglide⟩

theorem ShowsGlides.moves {s after : Session α} (h : s.ShowsGlides) (hs : s.Consistent)
    (hwell : s.stage.store.WellFormed) (hmoves : Relation.ReflTransGen Move s after) :
    after.ShowsGlides := by
  suffices after.Consistent ∧ after.stage.store.WellFormed ∧ after.ShowsGlides from this.2.2
  apply moves_induction (motive := fun s => s.Consistent ∧ s.stage.store.WellFormed ∧ s.ShowsGlides)
    hmoves ⟨hs, hwell, h⟩
  rintro s after ⟨hs, hwell, h⟩ hmove
  exact ⟨hs.move hmove, wellFormed_of_move hwell hmove, h.move hs hwell hmove⟩

/-- In every session that comes about the shown glides are under way. -/
theorem Reachable.showsGlides {s : Session α} (hs : s.Reachable) : s.ShowsGlides := by
  suffices s.Reachable ∧ s.ShowsGlides from this.2
  apply hs.induction (motive := fun s => s.Reachable ∧ s.ShowsGlides)
  · exact fun config entropy => ⟨⟨config, entropy, [], rfl⟩, nofun⟩
  · rintro s event ⟨hs, h⟩
    refine ⟨hs.play [event], ?_⟩
    cases event with
    | control control => exact h.moves hs.consistent hs.tracked.wellFormed (moves_perform control s)
    | pass ms => exact h
    | step n =>
      simp only [Session.handle]
      cases hfound : s.task? n with
      | none => exact h
      | some t => exact h.runTask hs.consistent (mem_of_task? hfound).1

/-- A sprite without an active chain does not run and shows no glide. -/
theorem Reachable.idle_of_inactive {s : Session α} (hs : s.Reachable) {id : Nat} {sprite : Sprite α}
    (hsprite : s.stage.store.get? id = some sprite) (hactive : s.stage.registry.active id = 0) :
    sprite.isRunning = false ∧ sprite.animation = none := by
  have hcount := hs.consistent.active_eq_length_live id
  rw [hactive] at hcount
  constructor
  · have hrunning := hs.consistent.sound.running id sprite.isRunning (by rw [Store.running?, hsprite]; rfl)
    rw [hactive] at hrunning
    simpa using hrunning
  · rw [← Option.not_isSome_iff_eq_none]
    intro hshown
    obtain ⟨t, ht, _⟩ := hs.showsGlides id (by rw [Store.animated?, hsprite, Option.map_some, hshown])
    rw [List.eq_nil_of_length_eq_zero hcount.symm] at ht
    cases ht

end Session

end SpriteStage
