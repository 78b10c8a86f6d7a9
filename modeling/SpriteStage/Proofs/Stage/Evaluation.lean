import SpriteStage.Proofs.Store.Payload

namespace SpriteStage

variable {α : Type}

namespace Store

/-- An update raises the version of its sprite by one. -/
theorem version?_update (store : Store α) (id other : Nat) (change : Sprite α → Sprite α) :
    (store.update id change).version? other =
      if other = id then (store.version? id).map (· + 1) else store.version? other := by
  rw [version?, slot?_update]
  split
  case isTrue => simp only [version?, Option.map_map, Function.comp_def]
  case isFalse => rfl

/-- A trade gives each of the two sprites a new version. -/
theorem version?_swapPayload {store : Store α} {pair : Pair} (hlow : pair.low ∈ store.ids)
    (hhigh : pair.high ∈ store.ids) (hless : pair.low < pair.high) (id : Nat) :
    (store.swapPayload pair).version? id =
      (store.version? id).map (· + (pair.involves id).toNat) := by
  obtain ⟨a, ha⟩ := mem_ids_iff_get?.1 hlow
  obtain ⟨b, hb⟩ := mem_ids_iff_get?.1 hhigh
  have hne := Nat.ne_of_lt hless
  simp only [swapPayload, ha, hb, version?_update, Pair.involves]
  by_cases hlast : id = pair.high
  · simp [hlast, hne.symm]
  · by_cases hfirst : id = pair.low
    · simp [hfirst, hne]
    · simp [hfirst, hlast, Ne.symm hfirst, Ne.symm hlast]

/-- Every trade of a sprite counts as one change of it. -/
theorem version?_trade {store : Store α} {pairs : List Pair}
    (hpairs : ∀ pair ∈ pairs, pair.low ∈ store.ids ∧ pair.high ∈ store.ids)
    (hless : ∀ pair ∈ pairs, pair.low < pair.high) (id : Nat) :
    (store.trade pairs).version? id =
      (store.version? id).map (· + pairs.countP fun pair => pair.involves id) := by
  induction pairs generalizing store with
  | nil => simp [trade]
  | cons pair rest ih =>
    obtain ⟨⟨hlow, hhigh⟩, hrest⟩ := List.forall_mem_cons.1 hpairs
    obtain ⟨hpair, hlater⟩ := List.forall_mem_cons.1 hless
    rw [← store.ids_swapPayload pair] at hrest
    rw [trade_cons, ih hrest hlater, version?_swapPayload hlow hhigh hpair, Option.map_map,
      List.countP_cons]
    congr 1
    funext version
    cases pair.involves id
    · rfl
    · simp only [Bool.toNat_true, if_true, Function.comp_apply]
      omega

/-- A sprite keeps everything but its bubble and its program when sprites trade. -/
theorem get?_trade_of_get? {store : Store α} (h : store.WellFormed) (pairs : List Pair) {id : Nat}
    {sprite : Sprite α} (hsprite : store.get? id = some sprite) :
    ∃ speech program,
      (store.trade pairs).get? id = some { sprite with speech := speech, program := program } := by
  let kept (s : Sprite α) : Sprite α := { s with id := 0, speech := .cleared, program := [] }
  have hview : Untraded kept := fun _ _ _ _ => rfl
  have hsame := map_get?_trade hview pairs store id
  rw [hsprite, Option.map_some, Option.map_eq_some_iff] at hsame
  obtain ⟨next, hnext, hkept⟩ := hsame
  have hid : next.id = sprite.id := ((h.trade pairs).id_of_get? hnext).trans (h.id_of_get? hsprite).symm
  refine ⟨next.speech, next.program, hnext.trans (congrArg some ?_)⟩
  obtain ⟨_, _, _, _, _, _, _, _, _⟩ := next
  simp_all [kept]

/-- `after` comes from `before` by trades of the pairs, one after the other: their transpositions hand
    the payloads round. All else stays, but that a sprite has a new version for every pair it is in. -/
structure Traded (pairs : List Pair) (before after : Store α) : Prop where
  payload : after.payload? =
    pairs.foldl (fun held pair => held ∘ Equiv.swap pair.low pair.high) before.payload?
  kept : ∀ id sprite, before.get? id = some sprite → ∃ speech program,
    after.get? id = some { sprite with speech := speech, program := program }
  ids : after.ids = before.ids
  nextId : after.nextId = before.nextId
  selected : after.selected = before.selected
  version : ∀ id, after.version? id =
    (before.version? id).map (· + pairs.countP fun pair => pair.involves id)

/-- Trades of pairs of sprites that are there hand the payloads round by the transpositions of the
    pairs. -/
theorem WellFormed.traded_trade {store : Store α} (h : store.WellFormed) {pairs : List Pair}
    (hpairs : ∀ pair ∈ pairs, pair.low ∈ store.ids ∧ pair.high ∈ store.ids)
    (hless : ∀ pair ∈ pairs, pair.low < pair.high) : Traded pairs store (store.trade pairs) where
  payload := payload?_trade hpairs
  kept _ _ := get?_trade_of_get? h pairs
  ids := ids_trade pairs store
  nextId := nextId_trade pairs store
  selected := selected_trade pairs store
  version := version?_trade hpairs hless

/-- The overlapping pairs can trade. -/
theorem WellFormed.traded_overlappingPairs [Scalar α] {store : Store α} (h : store.WellFormed)
    {pairs : List Pair} (hsubset : pairs ⊆ store.overlappingPairs) :
    Traded pairs store (store.trade pairs) := by
  refine h.traded_trade ?_ fun pair hpair => (h.mem_overlappingPairs_iff.1 (hsubset hpair)).1
  intro pair hpair
  obtain ⟨-, a, b, ha, hb, -⟩ := h.mem_overlappingPairs_iff.1 (hsubset hpair)
  exact ⟨mem_ids_iff_get?.2 ⟨a, ha⟩, mem_ids_iff_get?.2 ⟨b, hb⟩⟩

end Store

variable [Scalar α]

namespace HeroMode

/-- New contacts overlap. -/
theorem newContacts_subset (mode : HeroMode) (store : Store α) :
    mode.newContacts store ⊆ store.overlappingPairs := by
  unfold newContacts
  split
  case isTrue => exact List.filter_subset_self _
  case isFalse => exact List.nil_subset _

/-- Which contacts are new depends on where the sprites stand alone. -/
theorem newContacts_congr (mode : HeroMode) {store other : Store α}
    (hlayout : store.layout = other.layout) : mode.newContacts store = mode.newContacts other := by
  unfold newContacts
  rw [Store.overlappingPairs_congr hlayout]

/-- What Hero Mode reacts to are pairs of different sprites, overlapping and not noted yet. -/
theorem mem_newContacts_iff {mode : HeroMode} (henabled : mode.enabled = true) {store : Store α}
    (h : store.WellFormed) {pair : Pair} :
    pair ∈ mode.newContacts store ↔ pair.low < pair.high ∧ pair ∉ mode.colliding ∧ ∃ a b,
      store.get? pair.low = some a ∧ store.get? pair.high = some b ∧ a.box.overlaps b.box = true := by
  rw [newContacts, if_pos henabled, List.mem_filter, h.mem_overlappingPairs_iff]
  simp only [Bool.not_eq_true', List.contains_eq_mem, decide_eq_false_iff_not]
  tauto

end HeroMode

namespace Stage

/-- One sprite is drawn anew and all others stay as they are, but that the new contacts trade. -/
structure Drawn (id : Nat) (draw : Sprite α → Sprite α) (before after : Stage α) : Prop where
  here : ∃ sprite speech program, before.store.get? id = some sprite ∧
    after.store.get? id = some { draw sprite with speech := speech, program := program }
  elsewhere : ∀ other sprite, other ≠ id → before.store.get? other = some sprite →
    ∃ speech program, after.store.get? other = some { sprite with speech := speech, program := program }
  payload : after.store.payload? = (before.hero.newContacts after.store).foldl
    (fun held pair => held ∘ Equiv.swap pair.low pair.high) before.store.payload?
  ids : after.store.ids = before.store.ids

/-- A change of a sprite that is there draws it, if the change is to nothing that sprites trade. -/
theorem drawn_commit {stage : Stage α} (h : stage.store.WellFormed) {id : Nat} {sprite : Sprite α}
    (hsprite : stage.store.get? id = some sprite) {draw : Sprite α → Sprite α}
    (hid : (draw sprite).id = sprite.id) (hspeech : ∀ sprite, (draw sprite).speech = sprite.speech)
    (hprogram : ∀ sprite, (draw sprite).program = sprite.program) :
    stage.Drawn id draw (stage.commit id draw) := by
  let drawn := stage.store.update id draw
  have hdrawn : drawn.WellFormed := h.update id draw
  have hknown : stage.store.contains id = true := (stage.store.contains_iff_get? id).2 ⟨sprite, hsprite⟩
  have hafter : (stage.commit id draw).store = drawn.trade (stage.hero.newContacts drawn) := by
    rw [commit, if_pos hknown]
    rfl
  have hcontacts : stage.hero.newContacts (stage.commit id draw).store = stage.hero.newContacts drawn := by
    rw [hafter]
    exact stage.hero.newContacts_congr (hdrawn.layout_trade _)
  have htraded := hdrawn.traded_overlappingPairs (stage.hero.newContacts_subset drawn)
  rw [← hafter, ← hcontacts] at htraded
  refine ⟨?_, ?_, ?_, ?_⟩
  · have hhere : drawn.get? id = some (draw sprite) := by
      rw [Store.get?_update, if_pos rfl, hsprite, Option.map_some]
      rw [← h.id_of_get? hsprite, ← hid]
    obtain ⟨speech, program, hkept⟩ := htraded.kept id _ hhere
    exact ⟨sprite, speech, program, hsprite, hkept⟩
  · intro other sprite hne hother
    apply htraded.kept
    rwa [Store.get?_update, if_neg hne]
  · rw [htraded.payload]
    congr 1
    exact funext (Store.payload?_update hspeech hprogram)
  · exact htraded.ids.trans (stage.store.ids_update id draw)

/-- Hero Mode reacts to the new contacts in ascending order: different sprites that overlap and were
    not noted. The payloads are handed round by the transpositions of these pairs, one after the other,
    so none is lost and none is doubled. Nothing else of a sprite changes but its version, which grows
    with every pair that it is in. Hero Mode has then noted the pairs that overlap, and nothing is new
    to it. -/
theorem payloads_handed_round_by_react {stage : Stage α} (h : stage.store.WellFormed)
    (henabled : stage.hero.enabled = true) :
    let fresh := stage.hero.newContacts stage.store
    let before := stage.store
    let after := stage.react.store
    (fresh.Pairwise fun a b => a.rank < b.rank) ∧
    (∀ pair, pair ∈ fresh ↔ pair.low < pair.high ∧ pair ∉ stage.hero.colliding ∧ ∃ a b,
      before.get? pair.low = some a ∧ before.get? pair.high = some b ∧ a.box.overlaps b.box = true) ∧
    after.payload? =
      fresh.foldl (fun held pair => held ∘ Equiv.swap pair.low pair.high) before.payload? ∧
    after.payloads = before.payloads ∧
    after.ids = before.ids ∧
    (∀ id sprite, before.get? id = some sprite → ∃ speech program,
      after.get? id = some { sprite with speech := speech, program := program }) ∧
    (∀ id, after.version? id =
      (before.version? id).map (· + fresh.countP fun pair => pair.involves id)) ∧
    stage.react.hero = ⟨true, after.overlappingPairs⟩ ∧
    stage.react.hero.newContacts after = [] ∧
    stage.react.react = stage.react := by
  intro fresh before after
  have hmem (pair : Pair) : pair ∈ fresh ↔ _ := HeroMode.mem_newContacts_iff henabled h
  have hfresh : fresh = before.overlappingPairs.filter fun pair => !stage.hero.colliding.contains pair :=
    if_pos henabled
  have htraded : Store.Traded fresh before after :=
    h.traded_overlappingPairs (stage.hero.newContacts_subset before)
  have hoverlaps : after.overlappingPairs = before.overlappingPairs :=
    Store.overlappingPairs_congr (h.layout_trade fresh)
  have hhero : stage.react.hero = ⟨true, after.overlappingPairs⟩ := by
    change stage.hero.observe before = _
    rw [HeroMode.observe, if_pos henabled, hoverlaps, henabled]
  have htracked : stage.react.Tracked := ⟨wellFormed_react h, by rw [hhero]; rfl⟩
  refine ⟨?_, hmem, htraded.payload, h.payloads_trade fresh, htraded.ids, htraded.kept,
    htraded.version, hhero, htracked.knows.newContacts_of_subset (List.Subset.refl _), htracked.react⟩
  rw [hfresh]
  exact h.ascending_overlappingPairs.filter _

/-- Three balls in one place with bubbles and programs of their own, with Hero Mode on and no contact
    noted. -/
def gathered : Stage Float :=
  let balls := ((Store.empty.add .ball).add .ball).add .ball
  let label (id : Nat) (message : String) (store : Store Float) : Store Float :=
    store.update id fun sprite =>
      { sprite with speech := ⟨message, 0, false⟩, program := [⟨⟨message, "move", [], [], []⟩, []⟩] }
  { Stage.new Config.default 0 with
    store := label 3 "C" (label 2 "B" (label 1 "A" balls))
    hero := ⟨true, []⟩ }

/-- Three contacts are new, so the first ball and the last have each other's payload in the end, and
    every ball has changed twice. -/
theorem payloads_handed_round_by_react_gathered : gathered.store.WellFormed ∧
    gathered.hero.newContacts gathered.store = [⟨1, 2⟩, ⟨1, 3⟩, ⟨2, 3⟩] ∧
    gathered.react.store.payload? 1 = gathered.store.payload? 3 ∧
    gathered.react.store.payload? 2 = gathered.store.payload? 2 ∧
    gathered.react.store.payload? 3 = gathered.store.payload? 1 ∧
    gathered.react.store.version? 1 = some 3 := by
  have hwellFormed : gathered.store.WellFormed := by
    dsimp only [gathered]
    refine .update (.update (.update ?_ _ _) _ _) _ _
    exact ((Store.WellFormed.empty.add .ball).add .ball).add .ball
  have hfresh : gathered.hero.newContacts gathered.store = [⟨1, 2⟩, ⟨1, 3⟩, ⟨2, 3⟩] := by decide +kernel
  obtain ⟨-, -, hpayload, -, -, -, hversion, -⟩ := payloads_handed_round_by_react hwellFormed rfl
  rw [hfresh] at hpayload hversion
  refine ⟨hwellFormed, hfresh, ?_, ?_, ?_, hversion 1⟩
  all_goals
    rw [hpayload]
    rfl

end Stage

end SpriteStage
