import Mathlib.Algebra.Order.Group.Multiset
import Mathlib.Logic.Equiv.Basic
import SpriteStage.Proofs.Stage.Trading

namespace SpriteStage.Store

variable {α : Type}

/-- What a sprite has that sprites trade: its bubble and its program. -/
def payload? (store : Store α) (id : Nat) : Option (Speech × Program) :=
  (store.get? id).map fun sprite => (sprite.speech, sprite.program)

/-- An update that leaves bubble and program alone leaves all payloads alone. -/
theorem payload?_update {store : Store α} {id : Nat} {change : Sprite α → Sprite α}
    (hspeech : ∀ sprite, (change sprite).speech = sprite.speech)
    (hprogram : ∀ sprite, (change sprite).program = sprite.program) (other : Nat) :
    (store.update id change).payload? other = store.payload? other := by
  unfold payload?
  rw [get?_update]
  split
  case isTrue hid =>
    rw [hid, Option.map_map]
    congr 1
    funext sprite
    exact congrArg₂ Prod.mk (hspeech sprite) (hprogram sprite)
  case isFalse => rfl

/-- A sprite with the payload of before has the bubble and the program of before. -/
theorem speech_program_of_payload? {store other : Store α} {id : Nat} {sprite next : Sprite α}
    (hkept : other.payload? id = store.payload? id) (hsprite : store.get? id = some sprite)
    (hnext : other.get? id = some next) :
    next.speech = sprite.speech ∧ next.program = sprite.program := by
  unfold payload? at hkept
  rw [hsprite, hnext, Option.map_some, Option.map_some, Option.some.injEq] at hkept
  exact Prod.mk.inj hkept

theorem mem_ids_iff_get? {store : Store α} {id : Nat} :
    id ∈ store.ids ↔ ∃ sprite, store.get? id = some sprite :=
  (store.mem_ids_iff_contains id).trans (store.contains_iff_get? id)

/-- After a trade each of the two sprites has what the other had. -/
theorem payload?_swapPayload {store : Store α} {pair : Pair} (hlow : pair.low ∈ store.ids)
    (hhigh : pair.high ∈ store.ids) :
    (store.swapPayload pair).payload? = store.payload? ∘ Equiv.swap pair.low pair.high := by
  obtain ⟨a, ha⟩ := mem_ids_iff_get?.1 hlow
  obtain ⟨b, hb⟩ := mem_ids_iff_get?.1 hhigh
  funext id
  simp only [swapPayload, ha, hb, Function.comp_apply, payload?, get?_update]
  by_cases hlast : id = pair.high
  · rw [hlast, Equiv.swap_apply_right, ha, if_pos rfl]
    split <;> rfl
  · rw [if_neg hlast]
    by_cases hfirst : id = pair.low
    · rw [hfirst, Equiv.swap_apply_left, hb, if_pos rfl]
      rfl
    · rw [if_neg hfirst, Equiv.swap_apply_of_ne_of_ne hfirst hlast]

/-- Trades one after the other are transpositions one after the other. -/
theorem payload?_trade {store : Store α} {pairs : List Pair}
    (hpairs : ∀ pair ∈ pairs, pair.low ∈ store.ids ∧ pair.high ∈ store.ids) :
    (store.trade pairs).payload? =
      pairs.foldl (fun held pair => held ∘ Equiv.swap pair.low pair.high) store.payload? := by
  induction pairs generalizing store with
  | nil => rfl
  | cons pair rest ih =>
    obtain ⟨⟨hlow, hhigh⟩, hrest⟩ := List.forall_mem_cons.1 hpairs
    rw [← store.ids_swapPayload pair] at hrest
    rw [trade_cons, ih hrest, payload?_swapPayload hlow hhigh, List.foldl_cons]

/-- The payloads on the stage, each as often as sprites have it. -/
def payloads (store : Store α) : Multiset (Speech × Program) :=
  store.sprites.map fun sprite => (sprite.speech, sprite.program)

/-- The payloads on a stage are those that are found under its ids. -/
theorem WellFormed.map_some_payloads {store : Store α} (h : store.WellFormed) :
    store.payloads.map some = store.ids.map store.payload? := by
  rw [payloads, sprites, ids, Multiset.map_coe, List.map_map, List.map_map, List.map_map]
  congr 1
  apply List.map_congr_left
  intro slot hslot
  simp only [Function.comp_apply, payload?, h.get?_of_mem hslot, Option.map_some]

/-- The payloads on a stage depend on the payload of each sprite alone. -/
theorem payloads_congr {store other : Store α} (h : store.WellFormed) (hother : other.WellFormed)
    (hids : other.ids = store.ids) (hpayload : ∀ id, other.payload? id = store.payload? id) :
    other.payloads = store.payloads := by
  apply Multiset.map_injective (Option.some_injective _)
  rw [h.map_some_payloads, hother.map_some_payloads, hids, funext hpayload]

/-- Exchanging two of the ids permutes them. -/
private theorem perm_map_swap {a b : Nat} {ids : List Nat} (hnodup : ids.Nodup) (ha : a ∈ ids)
    (hb : b ∈ ids) : (ids.map (Equiv.swap a b)).Perm ids := by
  rw [List.perm_ext_iff_of_nodup (hnodup.map (Equiv.injective _)) hnodup]
  intro id
  rw [List.mem_map_of_involutive (Equiv.swap_apply_self a b), Equiv.swap_apply_def]
  split_ifs with hfirst hlast
  · simp [hfirst, ha, hb]
  · simp [hlast, ha, hb]
  · rfl

/-- A trade keeps all payloads on the stage, counted as often as they occur. -/
theorem WellFormed.payloads_swapPayload {store : Store α} (h : store.WellFormed) (pair : Pair) :
    (store.swapPayload pair).payloads = store.payloads := by
  by_cases hthere : pair.low ∈ store.ids ∧ pair.high ∈ store.ids
  · have hnodup : store.ids.Nodup := h.ascending.imp Nat.ne_of_lt
    apply Multiset.map_injective (Option.some_injective _)
    rw [(h.swapPayload pair).map_some_payloads, h.map_some_payloads, ids_swapPayload,
      payload?_swapPayload hthere.1 hthere.2, ← List.map_map, Multiset.coe_eq_coe]
    exact (perm_map_swap hnodup hthere.1 hthere.2).map _
  · unfold Store.swapPayload
    split
    case h_1 a b ha hb => exact absurd ⟨mem_ids_iff_get?.2 ⟨a, ha⟩, mem_ids_iff_get?.2 ⟨b, hb⟩⟩ hthere
    case h_2 => rfl

/-- Trades hand the payloads round; none is lost and none is doubled. -/
theorem WellFormed.payloads_trade {store : Store α} (h : store.WellFormed) (pairs : List Pair) :
    (store.trade pairs).payloads = store.payloads := by
  induction pairs generalizing store with
  | nil => rfl
  | cons pair rest ih => rw [trade_cons, ih (h.swapPayload pair), h.payloads_swapPayload]

/-- The programs on the stage, each as often as sprites have it. -/
def programs (store : Store α) : Multiset Program :=
  store.sprites.map (·.program)

/-- The programs on a stage are a part of its payloads. -/
theorem map_snd_payloads (store : Store α) : store.payloads.map Prod.snd = store.programs := by
  rw [payloads, programs, Multiset.map_coe, List.map_map]
  rfl

/-- The program of one sprite gives way to another. -/
theorem WellFormed.programs_update {store : Store α} (h : store.WellFormed) {id : Nat}
    {sprite : Sprite α} (hsprite : store.get? id = some sprite) (change : Sprite α → Sprite α) :
    (store.update id change).programs + {sprite.program} =
      store.programs + {(change sprite).program} := by
  obtain ⟨slot, hslot, rfl⟩ := Option.map_eq_some_iff.1 hsprite
  have hid : slot.id = id := by simpa using List.find?_some hslot
  subst hid
  have hnodup : (store.slots.map Slot.id).Nodup := h.ascending.imp Nat.ne_of_lt
  obtain ⟨front, back, hbefore, hafter⟩ := Keyed.map_change Slot.id hnodup
    (List.mem_of_find?_eq_some hslot)
    fun other => ⟨slot.id, other.version + 1, { change other.sprite with id := slot.id }⟩
  have hslots : (store.update slot.id change).slots = _ := hafter
  unfold programs sprites
  rw [hslots, hbefore]
  simp only [List.map_append, List.map_cons, ← Multiset.coe_add, ← Multiset.cons_coe,
    ← Multiset.singleton_add]
  ac_rfl

/-- An update that keeps the program of its sprite keeps all programs on the stage. -/
theorem WellFormed.programs_update_of_kept {store : Store α} (h : store.WellFormed) {id : Nat}
    {change : Sprite α → Sprite α}
    (hkept : ∀ sprite, store.get? id = some sprite → (change sprite).program = sprite.program) :
    (store.update id change).programs = store.programs := by
  cases hsprite : store.get? id with
  | none =>
    rw [update_of_unknown]
    rw [contains_iff_get?, hsprite]
    rintro ⟨_, ⟨⟩⟩
  | some sprite =>
    have hupdate := h.programs_update hsprite change
    rw [hkept sprite hsprite] at hupdate
    exact add_right_cancel hupdate

/-- An update that keeps the program of its sprite keeps that of every other as well. -/
theorem elim_program_update {store : Store α} {id : Nat} {change : Sprite α → Sprite α}
    (hkept : ∀ sprite, store.get? id = some sprite → (change sprite).program = sprite.program)
    (other : Nat) : ((store.update id change).get? other).elim [] (·.program) =
      (store.get? other).elim [] (·.program) := by
  rw [get?_update]
  split
  case isTrue hid =>
    rw [hid]
    cases hsprite : store.get? id with
    | none => rfl
    | some sprite => exact hkept sprite hsprite
  case isFalse => rfl

/-- Trades keep all programs on the stage, counted as often as they occur. -/
theorem WellFormed.programs_trade {store : Store α} (h : store.WellFormed) (pairs : List Pair) :
    (store.trade pairs).programs = store.programs := by
  rw [← map_snd_payloads, h.payloads_trade, map_snd_payloads]

/-- The programs on a stage depend on the payload of each sprite alone. -/
theorem programs_congr {store other : Store α} (h : store.WellFormed) (hother : other.WellFormed)
    (hids : other.ids = store.ids) (hpayload : ∀ id, other.payload? id = store.payload? id) :
    other.programs = store.programs := by
  rw [← map_snd_payloads, payloads_congr h hother hids hpayload, map_snd_payloads]

end SpriteStage.Store

namespace SpriteStage

variable {α : Type}

theorem Stage.programOf_of_get? {stage : Stage α} {id : Nat} {sprite : Sprite α}
    (hsprite : stage.store.get? id = some sprite) : stage.programOf id = sprite.program := by
  rw [programOf, hsprite]
  rfl

/-- Sprites with the same payload have the same program. -/
theorem Stage.programOf_of_payload? {stage other : Stage α} {id : Nat}
    (hpayload : other.store.payload? id = stage.store.payload? id) :
    other.programOf id = stage.programOf id := by
  have hprogramOf (stage : Stage α) : stage.programOf id = (stage.store.payload? id).elim [] (·.2) := by
    unfold programOf Store.payload?
    cases stage.store.get? id <;> rfl
  rw [hprogramOf, hprogramOf, hpayload]

end SpriteStage
