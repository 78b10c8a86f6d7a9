import SpriteStage.Proofs.Session.Plain
import SpriteStage.Proofs.Stage.Evaluation

namespace SpriteStage.Session

variable {α : Type} [Scalar α]

/-- The pairs that trade at an event. -/
def contacts (event : Event α) (s : Session α) : List Pair :=
  (s.heroAt event).newContacts (s.handlePlain event).stage.store

omit [Scalar α] in
/-- While Hero Mode is on it remembers at an event the pairs that overlapped before. -/
theorem heroAt_of_on {s : Session α} {event : Event α} (hbefore : s.stage.hero.enabled = true)
    (hafter : (s.heroAt event).enabled = true) : s.heroAt event = s.stage.hero := by
  unfold heroAt at hafter ⊢
  cases hswitched : s.switched? event with
  | none => rfl
  | some enabled =>
    rw [hswitched] at hafter
    rw [Option.elim_some, show enabled = true from hafter, HeroMode.switch, if_pos rfl, ← hbefore]

/-- An event that switches Hero Mode on does no more, and Hero Mode knows of no contact then. -/
theorem handlePlain_of_switchedOn {s : Session α} {event : Event α} (h : s.stage.Tracked)
    (hbefore : s.stage.hero.enabled = false) (hafter : (s.heroAt event).enabled = true) :
    (s.heroAt event).colliding = [] ∧ s.handlePlain event = s.plain := by
  unfold heroAt at hafter ⊢
  unfold handlePlain
  cases hswitched : s.switched? event with
  | none =>
    rw [hswitched, Option.elim_none, hbefore] at hafter
    cases hafter
  | some enabled =>
    rw [hswitched] at hafter
    rw [Option.elim_some, show enabled = true from hafter]
    exact ⟨h.knows.colliding_of_off hbefore, rfl⟩

/-- While it is off it remembers none. -/
theorem colliding_heroAt_of_off {s : Session α} (h : s.stage.Tracked) {event : Event α}
    (hoff : (s.heroAt event).enabled = false) : (s.heroAt event).colliding = [] := by
  unfold heroAt at hoff ⊢
  cases hswitched : s.switched? event with
  | none =>
    rw [hswitched] at hoff
    exact h.knows.colliding_of_off hoff
  | some enabled =>
    rw [hswitched] at hoff
    rw [Option.elim_some, show enabled = false from hoff]
    rfl

section Tracked

variable {s : Session α} (h : s.stage.Tracked) (event : Event α)

include h

/-- At an event the new contacts trade in what the event made of the store. -/
theorem store_handle : (s.handle event).stage.store =
    (s.handlePlain event).stage.store.trade (s.contacts event) := by
  rw [handle_eq_catchUp h]
  rfl

/-- Trading does not switch Hero Mode. -/
theorem enabled_handle : (s.handle event).stage.hero.enabled = (s.heroAt event).enabled := by
  rw [handle_eq_catchUp h]
  change ((s.heroAt event).observe (s.handlePlain event).stage.store).enabled = _
  unfold HeroMode.observe
  split <;> rfl

/-- Trading does not change which pairs overlap. -/
theorem overlappingPairs_handle : (s.handle event).stage.store.overlappingPairs =
    (s.handlePlain event).stage.store.overlappingPairs := by
  rw [store_handle h]
  exact Store.overlappingPairs_congr
    ((wellFormed_handlePlain h.wellFormed event).layout_trade (s.contacts event))

/-- After every event Hero Mode knows the overlapping pairs. -/
theorem tracked_handle : (s.handle event).stage.Tracked := by
  refine ⟨wellFormed_handle h.wellFormed event, ?_⟩
  have hlayout := (wellFormed_handlePlain h.wellFormed event).layout_trade (s.contacts event)
  have hoff (hafter : (s.heroAt event).enabled = false) := colliding_heroAt_of_off h hafter
  have hknows := HeroMode.knows_observe hoff (s.handlePlain event).stage.store
  rw [handle_eq_catchUp h]
  exact hknows.congr hlayout

/-- While Hero Mode is off no pair trades. -/
theorem contacts_of_off (hafter : (s.handle event).stage.hero.enabled = false) :
    s.contacts event = [] := by
  rw [enabled_handle h] at hafter
  rw [contacts, HeroMode.newContacts, hafter]
  rfl

/-- While Hero Mode is on the pairs that trade are those that overlap now and did not before. -/
theorem contacts_of_on (hbefore : s.stage.hero.enabled = true)
    (hafter : (s.handle event).stage.hero.enabled = true) : s.contacts event =
      (s.handlePlain event).stage.store.overlappingPairs.filter
        fun pair => !s.stage.store.overlappingPairs.contains pair := by
  rw [enabled_handle h] at hafter
  rw [contacts, heroAt_of_on hbefore hafter, h.knows.newContacts_eq, if_pos hbefore]

/-- When Hero Mode is switched on the pairs that trade are all that overlap. -/
theorem contacts_of_switchedOn (hbefore : s.stage.hero.enabled = false)
    (hafter : (s.handle event).stage.hero.enabled = true) :
    (s.handlePlain event).stage.store = s.stage.store ∧
      s.contacts event = s.stage.store.overlappingPairs := by
  rw [enabled_handle h] at hafter
  obtain ⟨hnone, hplain⟩ := handlePlain_of_switchedOn h hbefore hafter
  rw [contacts, hplain, HeroMode.newContacts, if_pos hafter, hnone]
  exact ⟨rfl, List.filter_true _⟩

end Tracked

/-- In every session that comes about Hero Mode knows the overlapping pairs. -/
theorem Reachable.tracked {s : Session α} (hs : s.Reachable) : s.stage.Tracked :=
  hs.induction (motive := fun s => s.stage.Tracked) .new fun _ event h => tracked_handle h event

/-- Hero Mode knows the overlapping pairs while it is on, and none while it is off. What an event does
    to a program or a bubble, apart from taking them away, it does to its own sprite; beside that, the
    pairs trade that overlap after the event and did not before, each of them once: their transpositions
    hand the payloads round, and all else stays as the event left it. None trades when Hero Mode is off
    after the event, and switching it on lets every overlapping pair trade once. -/
theorem trades_are_new_contacts {s : Session α} (hs : s.Reachable) :
    (s.stage.hero.colliding = if s.stage.hero.enabled then s.stage.store.overlappingPairs else []) ∧
      ∀ event : Event α,
        let before := s.stage.store
        let plain := (s.handlePlain event).stage.store
        let after := (s.handle event).stage.store
        let isOn := (s.handle event).stage.hero.enabled
        (∀ id sprite next, before.get? id = some sprite → plain.get? id = some next →
          Gives event s id sprite next) ∧
        after.overlappingPairs = plain.overlappingPairs ∧
        plain.overlappingPairs.Nodup ∧
        (∀ pair, pair ∈ plain.overlappingPairs ↔ pair.low < pair.high ∧ ∃ a b,
          plain.get? pair.low = some a ∧ plain.get? pair.high = some b ∧
            a.box.overlaps b.box = true) ∧
        (isOn = false → after = plain) ∧
        (s.stage.hero.enabled = true → isOn = true → Store.Traded
          (plain.overlappingPairs.filter fun pair => !before.overlappingPairs.contains pair)
          plain after) ∧
        (s.stage.hero.enabled = false → isOn = true →
          plain = before ∧ Store.Traded before.overlappingPairs before after) := by
  have h := hs.tracked
  refine ⟨h.knows, ?_⟩
  intro event before plain after isOn
  have hafter : after = plain.trade (s.contacts event) := store_handle h event
  have hwellFormed : plain.WellFormed := wellFormed_handlePlain h.wellFormed event
  refine ⟨fun _ _ _ => gives_handlePlain h event, overlappingPairs_handle h event,
    hwellFormed.nodup_overlappingPairs, fun _ => hwellFormed.mem_overlappingPairs_iff, ?_, ?_, ?_⟩
  · intro hoff
    rw [hafter, contacts_of_off h event hoff]
    rfl
  · intro hbefore hon
    rw [hafter, contacts_of_on h event hbefore hon]
    exact hwellFormed.traded_overlappingPairs (List.filter_subset_self _)
  · intro hbefore hon
    obtain ⟨hplain, hcontacts⟩ := contacts_of_switchedOn h event hbefore hon
    refine ⟨hplain, ?_⟩
    rw [hafter, hcontacts, show plain = before from hplain]
    exact h.wellFormed.traded_overlappingPairs (List.Subset.refl _)

/-- Apart from Hero Mode, a sprite that is resized keeps its payload. -/
theorem payload?_handlePlain_changeSize (s : Session α) (id : Nat) (delta : α) :
    (s.handlePlain (.control (.changeSize id delta))).stage.store.payload? = s.stage.store.payload? := by
  have hstage : (s.handlePlain (.control (.changeSize id delta))).stage =
      (s.stage.withHero .off).commit id fun sprite => { sprite with size := sprite.size + delta } := rfl
  rw [hstage, Stage.commit_eq_update]
  funext other
  apply Store.payload?_update <;> exact fun _ => rfl

/-- Two balls that stand in one place, the first of them with a program. -/
def stacked : Session Float :=
  let program : Program := [⟨⟨"f", "when_flag_clicked", [], [], []⟩, []⟩]
  (new Config.default 0).play
    [.control (.add .ball), .control (.add .ball), .control (.setProgram 1 program)]

/-- Switching Hero Mode on lets the two trade, so the second ball has the program. While it is on they
    do not trade again. -/
theorem trades_are_new_contacts_stacked :
    let on := stacked.handle (.control .toggleHero)
    let grown := on.handle (.control (.changeSize 1 5))
    stacked.stage.programOf 1 ≠ [] ∧ stacked.stage.programOf 2 = [] ∧
      on.stage.store.payload? 1 = stacked.stage.store.payload? 2 ∧
      on.stage.store.payload? 2 = stacked.stage.store.payload? 1 ∧
      (on.stage.store.version? 1, on.stage.store.version? 2) = (some 2, some 1) ∧
      grown.stage.store.payload? = on.stage.store.payload? ∧
      (grown.stage.store.version? 1, grown.stage.store.version? 2) = (some 3, some 1) := by
  intro on grown
  have hreachable : stacked.Reachable := ⟨Config.default, 0, _, rfl⟩
  have hpairs : stacked.stage.store.overlappingPairs = [⟨1, 2⟩] := by decide +kernel
  obtain ⟨_, _, _, _, _, _, hswitchedOn⟩ :=
    (trades_are_new_contacts hreachable).2 (.control .toggleHero)
  have htraded := (hswitchedOn (by decide +kernel) (by decide +kernel)).2
  rw [hpairs] at htraded
  obtain ⟨_, _, _, _, _, hon, _⟩ := (trades_are_new_contacts (hreachable.play [.control .toggleHero])).2
    (.control (.changeSize 1 5))
  have hagain := hon (by decide +kernel) (by decide +kernel)
  have hnone : ((on.handlePlain (.control (.changeSize 1 5))).stage.store.overlappingPairs.filter
      fun pair => !on.stage.store.overlappingPairs.contains pair) = [] := by decide +kernel
  rw [show (stacked.play [.control .toggleHero]) = on from rfl, hnone] at hagain
  refine ⟨by decide +kernel, by decide +kernel, ?_, ?_, ?_, ?_, ?_⟩
  · rw [htraded.payload]
    rfl
  · rw [htraded.payload]
    rfl
  · rw [htraded.version, htraded.version]
    rfl
  · rw [show grown.stage.store.payload? = _ from hagain.payload, List.foldl_nil,
      payload?_handlePlain_changeSize]
  · rw [hagain.version, hagain.version]
    decide +kernel

end SpriteStage.Session
