import SpriteStage.Proofs.Session.Trading
import SpriteStage.Proofs.Store.Versions

namespace SpriteStage

variable {α : Type} [Scalar α]

namespace Stage

variable {before : Store α} {stage : Stage α} (h : before.Precedes stage.store)

include h

theorem precedes_react : before.Precedes stage.react.store :=
  h.trans (stage.store.precedes_settle stage.hero)

/-- Committing a change gives the sprite a new version. -/
theorem precedes_commit (id : Nat) (change : Sprite α → Sprite α) :
    before.Precedes (stage.commit id change).store := by
  unfold commit
  split
  · exact precedes_react (h.trans (stage.store.precedes_update id change))
  · exact h

theorem precedes_write (id : Nat) (w : Write α) : before.Precedes (stage.write id w).store := by
  have hwritten : before.Precedes
      ({ stage with random := w.random, registry := w.registry } : Stage α).store := h
  unfold write
  cases w.change with
  | none => exact h
  | some change => exact precedes_commit hwritten id change

end Stage

namespace Session

/-- Every move gives new versions to the sprites that it changes. -/
theorem Move.precedes_store {s after : Session α} (hmove : Move s after) :
    s.stage.store.Precedes after.stage.store := by
  have hrefl := Store.Precedes.refl s.stage.store
  cases hmove with
  | edit id hedit => exact Stage.precedes_commit hrefl id _
  | add kind => exact Stage.precedes_react (s.stage.store.precedes_add kind)
  | select id => exact s.stage.store.precedes_select id
  | unselect => exact .of_slots rfl rfl
  | delete id =>
    simp only [onStage, Stage.delete]
    split
    · exact s.stage.store.precedes_remove id
    · exact hrefl
  | movePointer pointer => exact hrefl
  | undo =>
    simp only [onStage, Stage.undoLast]
    split
    case h_1 => exact hrefl
    case h_2 entry rest _ =>
      exact Stage.precedes_commit (s.stage.store.precedes_update entry.id Sprite.idle) entry.id _
  | reset =>
    exact Stage.precedes_react
      (.foldl (fun store id => store.precedes_update id Sprite.reset) s.stage.store.ids s.stage.store)
  | switchHero enabled =>
    cases enabled with
    | true => exact Stage.precedes_react hrefl
    | false => exact hrefl
  | @halt id hknown => exact s.stage.store.precedes_update id Sprite.idle
  | @start id hknown chain =>
    have hstarted : s.stage.store.Precedes
        ({ s.stage with registry := s.stage.registry.startChain id } : Stage α).store := hrefl
    exact Stage.precedes_commit hstarted id _

/-- Every event gives new versions to the sprites that it changes. -/
theorem precedes_store_handle (s : Session α) (event : Event α) :
    s.stage.store.Precedes (s.handle event).stage.store := by
  have hrefl := Store.Precedes.refl s.stage.store
  cases event with
  | control control =>
    exact moves_induction (motive := fun after => s.stage.store.Precedes after.stage.store)
      (moves_perform control s) hrefl fun _ _ hbefore hmove => hbefore.trans hmove.precedes_store
  | step n =>
    rcases s.stage_handle_step n with hsame | ⟨t, w, _, _, hwrite⟩
    · rwa [hsame]
    · rw [hwrite]
      exact Stage.precedes_write hrefl t.sprite w
  | pass ms => exact hrefl

/-- Every run gives new versions to the sprites that it changes. -/
theorem precedes_store_play (s : Session α) (events : List (Event α)) :
    s.stage.store.Precedes (s.play events).stage.store := by
  induction events generalizing s with
  | nil => exact .refl _
  | cons event rest ih => exact (s.precedes_store_handle event).trans (ih (s.handle event))

/-- At two moments of a run at which a sprite is there, its version at the later one is at least what it
    was at the earlier one, and if it is the same, so is everything about the sprite. -/
theorem version_tells_sprite {s : Session α} (hs : s.Reachable) (events : List (Event α)) {id : Nat}
    {earlier later : Nat} {sprite next : Sprite α}
    (hearlier : s.stage.store.version? id = some earlier)
    (hsprite : s.stage.store.get? id = some sprite)
    (hlater : (s.play events).stage.store.version? id = some later)
    (hnext : (s.play events).stage.store.get? id = some next) :
    earlier ≤ later ∧ (earlier = later → next = sprite) := by
  obtain ⟨old, hold, rfl⟩ := Option.map_eq_some_iff.1 hearlier
  obtain ⟨new, hnew, rfl⟩ := Option.map_eq_some_iff.1 hlater
  rw [Store.get?, hold, Option.map_some, Option.some.injEq] at hsprite
  rw [Store.get?, hnew, Option.map_some, Option.some.injEq] at hnext
  have hthere : s.stage.store.contains id = true := Option.isSome_iff_exists.2 ⟨old, hold⟩
  have hid := hs.tracked.wellFormed.lt_nextId id ((Store.mem_ids_iff_contains _ _).2 hthere)
  obtain ⟨slot, hslot, hversion⟩ := (s.precedes_store_play events).slot? id new hid hnew
  rw [hold, Option.some.injEq] at hslot
  subst hslot
  rcases hversion with rfl | hlt
  · exact ⟨Nat.le_refl _, fun _ => hnext.symm.trans hsprite⟩
  · exact ⟨Nat.le_of_lt hlt, fun hsame => absurd hsame (Nat.ne_of_lt hlt)⟩

/-- Two dogs, the first of which is about to walk. -/
def walking : Session Float :=
  let program : Program := [⟨⟨"f", "when_flag_clicked", [], [], []⟩,
    [⟨"m", "move", [("x_position", .int 40)], [], []⟩]⟩]
  (new Config.default 0).play
    [.control (.add .dog), .control (.add .dog), .control (.setProgram 1 program), .control (.run 1)]

/-- The first dog walks and is put back. Its version has grown, and the second dog, whose version has not,
    is the one that it was. -/
theorem version_tells_sprite_walking :
    let later : List (Event Float) := [.step 0, .step 0, .control .undo]
    (walking.stage.store.version? 1 = some 3 ∧ (walking.play later).stage.store.version? 1 = some 6) ∧
      ∃ sprite, walking.stage.store.get? 2 = some sprite ∧
        (walking.play later).stage.store.get? 2 = some sprite := by
  intro later
  have hreachable : walking.Reachable := ⟨Config.default, 0, _, rfl⟩
  have hbefore : (walking.stage.store.get? 2).isSome = true := by decide
  have hafter : ((walking.play later).stage.store.get? 2).isSome = true := by decide
  obtain ⟨sprite, hsprite⟩ := Option.isSome_iff_exists.1 hbefore
  obtain ⟨next, hnext⟩ := Option.isSome_iff_exists.1 hafter
  have hearlier : walking.stage.store.version? 2 = some 0 := by decide
  have hlater : (walking.play later).stage.store.version? 2 = some 0 := by decide
  have hsame := (version_tells_sprite hreachable later hearlier hsprite hlater hnext).2 rfl
  exact ⟨by decide, sprite, hsprite, hsame ▸ hnext⟩

end Session

end SpriteStage
