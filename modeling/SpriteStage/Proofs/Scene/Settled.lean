import SpriteStage.Proofs.Scene.Start
import SpriteStage.Proofs.Session.ShownGlides

namespace SpriteStage

variable {α : Type} [Scalar α]

/-- Once no task is under way, no sprite runs or shows a glide. -/
theorem Session.Reachable.idle_of_settled {s : Session α} (hs : s.Reachable)
    (hsettled : s.outcome.settled = true) :
    ∀ sprite ∈ s.outcome.sprites, sprite.isRunning = false ∧ sprite.animation = none := by
  intro sprite hsprite
  obtain ⟨slot, hslot, rfl⟩ := List.mem_map.1 hsprite
  have htasks : s.tasks = [] := List.isEmpty_iff.1 hsettled
  have hactive : s.stage.registry.active slot.id = 0 := by
    rw [hs.consistent.active_eq_length_live, Session.live, htasks]
    rfl
  exact hs.idle_of_inactive (hs.tracked.wellFormed.get?_of_mem hslot) hactive

/-- A sprite that shows a glide has a chain in the middle of one that is neither finished nor cancelled,
    so a sprite without an active chain shows none. A scene that has settled is idle, whatever was done
    to it on the way. -/
theorem shown_glides_are_under_way :
    (∀ s : Session α, s.Reachable → ∀ id sprite, s.stage.store.get? id = some sprite →
      (sprite.animation.isSome = true → ∃ t ∈ s.live id, t.work.isGliding = true) ∧
      (s.stage.registry.active id = 0 → sprite.animation = none)) ∧
    (∀ config entropy all limit (scene : Scene) (s : Session α),
      scene.run config entropy all limit = .ok s → s.outcome.settled = true →
      ∀ sprite ∈ s.outcome.sprites, sprite.isRunning = false ∧ sprite.animation = none) ∧
    ∀ config entropy all (scene : Scene) (s : Session α), scene.start config entropy all = .ok s →
      ∀ events, (s.play events).outcome.settled = true →
      ∀ sprite ∈ (s.play events).outcome.sprites, sprite.isRunning = false ∧ sprite.animation = none := by
  refine ⟨?_, ?_, ?_⟩
  · intro s hs id sprite hsprite
    refine ⟨fun hshown => hs.showsGlides id ?_, fun hactive => (hs.idle_of_inactive hsprite hactive).2⟩
    rw [Store.animated?, hsprite, Option.map_some, hshown]
  · intro config entropy all limit scene s hrun
    exact (Scene.reachable_of_run hrun).idle_of_settled
  · intro config entropy all scene s hstart events
    exact ((Scene.reachable_of_start hstart).play events).idle_of_settled

/-- A dog that glides for forty milliseconds. -/
def Scene.crossing : Scene :=
  let glide : Json := .obj [("id", .str "g"), ("type", .str "glide"),
    ("fields", .obj [("seconds", .double 0.04), ("x_position", .int 90), ("y_position", .int 40)])]
  let program : Json := .arr [.obj [("id", .str "f"), ("type", .str "when_flag_clicked"),
    ("next", .obj [("block", glide)])]]
  ⟨[⟨"dog", none, none, none, program⟩], false, none⟩

/-- The dog shows its glide after the first frame, and neither after the last one nor once a reset has cut
    the glide short. -/
theorem shown_glides_are_under_way_crossing : ∃ first last : Session Float,
    Scene.crossing.start Config.default 0 false = .ok first ∧
      Scene.crossing.run Config.default 0 false 1000 = .ok last ∧
      (∃ sprite, (first.play [.step 0, .step 0, .step 0]).stage.store.get? 1 = some sprite ∧
        sprite.animation.isSome = true ∧
        ∃ t ∈ (first.play [.step 0, .step 0, .step 0]).live 1, t.work.isGliding = true) ∧
      last.outcome.settled = true ∧
      (∀ sprite ∈ last.outcome.sprites, sprite.isRunning = false ∧ sprite.animation = none) ∧
      let cut := first.play [.step 0, .step 0, .step 0, .control .reset, .step 0]
      cut.outcome.settled = true ∧
      ∀ sprite ∈ cut.outcome.sprites, sprite.isRunning = false ∧ sprite.animation = none := by
  obtain ⟨hglides, hsettled, hcut⟩ := shown_glides_are_under_way (α := Float)
  have hfirst : (Scene.crossing.start Config.default 0 false).toOption.any (fun s : Session Float =>
      ((s.play [.step 0, .step 0, .step 0]).stage.store.get? 1).any (·.animation.isSome) &&
        (s.play [.step 0, .step 0, .step 0, .control .reset, .step 0]).outcome.settled) = true := by
    decide +kernel
  have hlast : (Scene.crossing.run Config.default 0 false 1000).toOption.any (fun s : Session Float =>
      s.outcome.settled) = true := by
    decide +kernel
  obtain ⟨first, hstart, hfirst⟩ := (Option.any_eq_true _ _).1 hfirst
  obtain ⟨last, hrun, hlast⟩ := (Option.any_eq_true _ _).1 hlast
  obtain ⟨hshown, hstopped⟩ := Bool.and_eq_true_iff.1 hfirst
  obtain ⟨sprite, hsprite, hshown⟩ := (Option.any_eq_true _ _).1 hshown
  have hok {result : Except SceneFault (Session Float)} {s : Session Float}
      (hsome : result.toOption = some s) : result = .ok s := by
    cases result <;> cases hsome
    rfl
  have hstart := hok hstart
  have hrun := hok hrun
  have hreachable := (Scene.reachable_of_start hstart).play [.step 0, .step 0, .step 0]
  have hunderWay := (hglides _ hreachable 1 sprite hsprite).1 hshown
  exact ⟨first, last, hstart, hrun, ⟨sprite, hsprite, hshown, hunderWay⟩, hlast,
    hsettled _ _ _ _ _ last hrun hlast, hstopped, hcut _ _ _ _ first hstart _ hstopped⟩

end SpriteStage
