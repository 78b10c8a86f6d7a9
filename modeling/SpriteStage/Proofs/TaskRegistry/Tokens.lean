import SpriteStage.Proofs.TaskRegistry.Lookup

namespace SpriteStage.TaskRegistry

/-- A token is live exactly if its serial stands in the entry of its sprite. -/
theorem isCancelled_eq_false_iff (r : TaskRegistry) (token : Token) :
    r.isCancelled token = false ↔ ∃ work, r.work? token.sprite = some work ∧
      (work.chains = token.serial ∨ work.speech = token.serial) := by
  unfold isCancelled
  cases r.work? token.sprite with
  | none => simp
  | some work => simp [← Classical.or_iff_not_imp_left]

/-- No token is live on a sprite that is not registered. -/
theorem isCancelled_of_none {r : TaskRegistry} {token : Token} (hwork : r.work? token.sprite = none) :
    r.isCancelled token = true := by
  simp only [isCancelled, hwork]

/-- Cancellation reads the two serials in the entry of the sprite and nothing else. -/
theorem isCancelled_congr {before after : TaskRegistry} {token : Token}
    (hserials : (after.work? token.sprite).map (fun work => (work.chains, work.speech)) =
      (before.work? token.sprite).map fun work => (work.chains, work.speech)) :
    after.isCancelled token = before.isCancelled token := by
  unfold isCancelled
  cases hafter : after.work? token.sprite <;> cases hbefore : before.work? token.sprite <;>
    simp_all

theorem active_of_none {r : TaskRegistry} {id : Nat} (hwork : r.work? id = none) :
    r.active id = 0 := by
  simp only [active, hwork, Option.elim_none]

theorem active_entry (r : TaskRegistry) (id : Nat) : (r.entry id).active = r.active id := by
  unfold entry active
  cases r.work? id <;> rfl

/-- Registering a sprite changes no count. -/
theorem active_ensure (r : TaskRegistry) (id other : Nat) :
    (r.ensure id).active other = r.active other := by
  rw [active, work?_ensure]
  split
  case isTrue hid => rw [Option.elim_some, active_entry, hid]
  case isFalse => rfl

/-- Starting a chain raises the count of its sprite by one. -/
theorem active_startChain (r : TaskRegistry) (id other : Nat) :
    (r.startChain id).active other = if other = id then r.active id + 1 else r.active other := by
  rw [active, work?_startChain]
  split
  case isTrue => rw [Option.elim_some, active_entry]
  case isFalse => rfl

/-- Cancelling the chains of a sprite leaves the counts of others alone. -/
theorem active_cancelChains_of_ne (r : TaskRegistry) {id other : Nat} (hid : other ≠ id) :
    (r.cancelChains id).active other = r.active other := by
  rw [active, work?_cancelChains, if_neg hid, active]

theorem active_cancelSprite_of_ne (r : TaskRegistry) {id other : Nat} (hid : other ≠ id) :
    (r.cancelSprite id).active other = r.active other := by
  rw [active, work?_cancelSprite, if_neg hid, active]

/-- A sprite whose chains were cancelled has none that are counted. -/
theorem active_cancelChains_self (r : TaskRegistry) (id : Nat) : (r.cancelChains id).active id = 0 := by
  rw [active, work?_cancelChains, if_pos rfl]
  cases r.work? id <;> rfl

theorem active_cancelSprite_self (r : TaskRegistry) (id : Nat) : (r.cancelSprite id).active id = 0 := by
  rw [active, work?_cancelSprite, if_pos rfl]
  rfl

/-- Finishing a live chain lowers the count of its sprite by one. -/
theorem active_finishChain {r : TaskRegistry} {token : Token} (hlive : r.isCancelled token = false)
    (id other : Nat) :
    (r.finishChain id token).active other = if other = id then r.active id - 1 else r.active other := by
  rw [active, work?_finishChain hlive]
  split
  case isTrue =>
    unfold active
    cases r.work? id <;> rfl
  case isFalse => rfl

/-- Every entry of the registry has two tokens, whose serials were given out and differ. -/
def WellFormed (r : TaskRegistry) : Prop :=
  ∀ id work, r.work? id = some work →
    work.chains < r.nextSerial ∧ work.speech < r.nextSerial ∧ work.chains ≠ work.speech

theorem WellFormed.empty : WellFormed .empty := by
  intro id work hwork
  cases hwork

/-- The serials of an entry were given out, one for chains and another for timers. -/
theorem WellFormed.entry {r : TaskRegistry} (hr : r.WellFormed) (id : Nat) :
    (r.entry id).chains < (r.ensure id).nextSerial ∧ (r.entry id).speech < (r.ensure id).nextSerial ∧
      (r.entry id).chains ≠ (r.entry id).speech := by
  cases hwork : r.work? id with
  | some work =>
    rw [ensure_of_work? hwork, TaskRegistry.entry, hwork, Option.getD_some]
    exact hr id work hwork
  | none =>
    rw [ensure_of_none hwork, TaskRegistry.entry, hwork, Option.getD_none]
    refine ⟨?_, ?_, ?_⟩ <;> simp

/-- Rewriting an entry keeps a registry well-formed if the new serials were given out and differ. -/
theorem WellFormed.of_rewrites {before after : TaskRegistry} {id : Nat} {entry : Option SpriteWork}
    (hbefore : before.WellFormed) (hrewrites : before.Rewrites after id entry)
    (hentry : ∀ work, entry = some work →
      work.chains < after.nextSerial ∧ work.speech < after.nextSerial ∧ work.chains ≠ work.speech) :
    after.WellFormed := by
  intro other work hwork
  have hle := hrewrites.serial_le
  rw [hrewrites.work?] at hwork
  split at hwork
  case isTrue => exact hentry work hwork
  case isFalse =>
    obtain ⟨hchains, hspeech, hne⟩ := hbefore other work hwork
    exact ⟨by omega, by omega, hne⟩

theorem WellFormed.ensure {r : TaskRegistry} (hr : r.WellFormed) (id : Nat) :
    (r.ensure id).WellFormed := by
  apply hr.of_rewrites (r.rewrites_ensure id)
  intro work hwork
  cases hwork
  exact hr.entry id

theorem WellFormed.startChain {r : TaskRegistry} (hr : r.WellFormed) (id : Nat) :
    (r.startChain id).WellFormed := by
  apply hr.of_rewrites (r.rewrites_startChain id)
  intro work hwork
  cases hwork
  exact hr.entry id

theorem WellFormed.cancelChains {r : TaskRegistry} (hr : r.WellFormed) (id : Nat) :
    (r.cancelChains id).WellFormed := by
  apply hr.of_rewrites (r.rewrites_cancelChains id)
  intro work hwork
  obtain ⟨old, hold, rfl⟩ := Option.map_eq_some_iff.1 hwork
  obtain ⟨hchains, hspeech, hne⟩ := hr id old hold
  rw [nextSerial_cancelChains_of_work? hold]
  refine ⟨?_, ?_, ?_⟩ <;> dsimp only <;> omega

theorem WellFormed.finishChain {r : TaskRegistry} (hr : r.WellFormed) (id : Nat) {token : Token}
    (hlive : r.isCancelled token = false) : (r.finishChain id token).WellFormed := by
  apply hr.of_rewrites (rewrites_finishChain hlive id)
  intro work hwork
  obtain ⟨old, hold, rfl⟩ := Option.map_eq_some_iff.1 hwork
  rw [nextSerial_finishChain]
  exact hr id old hold

theorem WellFormed.cancelSprite {r : TaskRegistry} (hr : r.WellFormed) (id : Nat) :
    (r.cancelSprite id).WellFormed :=
  hr.of_rewrites (r.rewrites_cancelSprite id) nofun

theorem WellFormed.cancelAll (r : TaskRegistry) : r.cancelAll.WellFormed := by
  intro other work hwork
  cases hwork

/-- A sprite with an entry keeps its tokens, and without one it gets tokens that nothing watches
    yet. -/
theorem isCancelled_ensure {r : TaskRegistry} (id : Nat) {token : Token}
    (hserial : token.serial < r.nextSerial) :
    (r.ensure id).isCancelled token = r.isCancelled token := by
  cases hwork : r.work? id with
  | some work => rw [ensure_of_work? hwork]
  | none =>
    by_cases hid : token.sprite = id
    · subst hid
      have hbefore : r.isCancelled token = true := isCancelled_of_none hwork
      rw [hbefore]
      simp only [isCancelled, work?_ensure, if_pos, TaskRegistry.entry, hwork, Option.getD_none, ne_eq,
        Bool.and_eq_true, decide_eq_true_eq]
      omega
    · apply isCancelled_congr
      rw [work?_ensure, if_neg hid]

/-- Starting a chain cancels no token that was given out, and brings none back. -/
theorem isCancelled_startChain {r : TaskRegistry} (id : Nat) {token : Token}
    (hserial : token.serial < r.nextSerial) :
    (r.startChain id).isCancelled token = r.isCancelled token := by
  rw [← isCancelled_ensure id hserial]
  apply isCancelled_congr
  rw [work?_startChain, work?_ensure]
  split <;> rfl

/-- Finishing a chain cancels no token: the others of its sprite run on. -/
theorem isCancelled_finishChain (r : TaskRegistry) (id : Nat) (finished token : Token) :
    (r.finishChain id finished).isCancelled token = r.isCancelled token := by
  cases hlive : r.isCancelled finished with
  | true => rw [finishChain, if_pos hlive]
  | false =>
    apply isCancelled_congr
    rw [work?_finishChain hlive]
    split
    case isTrue hid => rw [hid, Option.map_map]; rfl
    case isFalse => rfl

/-- Cancelling the chains of a sprite leaves the tokens of others alone. -/
theorem isCancelled_cancelChains_of_ne (r : TaskRegistry) {id : Nat} {token : Token}
    (hid : token.sprite ≠ id) : (r.cancelChains id).isCancelled token = r.isCancelled token := by
  apply isCancelled_congr
  rw [work?_cancelChains, if_neg hid]

/-- Cancelling chains cancels every token given out before but the one of the speech timers. -/
theorem isCancelled_cancelChains_self {r : TaskRegistry} {token : Token}
    (hserial : token.serial < r.nextSerial)
    (hspeech : ∀ work, r.work? token.sprite = some work → work.speech ≠ token.serial) :
    (r.cancelChains token.sprite).isCancelled token = true := by
  cases hwork : r.work? token.sprite with
  | none => rw [cancelChains_of_none hwork, isCancelled_of_none hwork]
  | some work =>
    have hne := hspeech work hwork
    simp only [isCancelled, work?_cancelChains, hwork, if_pos, Option.map_some, ne_eq,
      Bool.and_eq_true, decide_eq_true_eq]
    exact ⟨by omega, hne⟩

/-- Cancelling all work of a sprite cancels all its tokens. -/
theorem isCancelled_cancelSprite_self (r : TaskRegistry) (token : Token) :
    (r.cancelSprite token.sprite).isCancelled token = true :=
  isCancelled_of_none (by rw [work?_cancelSprite, if_pos rfl])

/-- Cancelling all work of a sprite leaves the tokens of others alone. -/
theorem isCancelled_cancelSprite_of_ne (r : TaskRegistry) {id : Nat} {token : Token}
    (hid : token.sprite ≠ id) : (r.cancelSprite id).isCancelled token = r.isCancelled token := by
  apply isCancelled_congr
  rw [work?_cancelSprite, if_neg hid]

/-- Cancelling everything cancels all tokens. -/
theorem isCancelled_cancelAll (r : TaskRegistry) (token : Token) :
    r.cancelAll.isCancelled token = true :=
  isCancelled_of_none rfl

/-- Every token in the later registry was in the earlier one for the same purpose or is new. -/
structure Grows (before after : TaskRegistry) : Prop where
  serial_le : before.nextSerial ≤ after.nextSerial
  chains : ∀ id work, after.work? id = some work →
    before.nextSerial ≤ work.chains ∨ ∃ old, before.work? id = some old ∧ old.chains = work.chains
  speech : ∀ id work, after.work? id = some work →
    before.nextSerial ≤ work.speech ∨ ∃ old, before.work? id = some old ∧ old.speech = work.speech

namespace Grows

theorem refl (r : TaskRegistry) : r.Grows r :=
  ⟨Nat.le_refl _, fun _ work hwork => Or.inr ⟨work, hwork, rfl⟩,
    fun _ work hwork => Or.inr ⟨work, hwork, rfl⟩⟩

theorem trans {first middle last : TaskRegistry} (hfirst : first.Grows middle)
    (hlast : middle.Grows last) : first.Grows last := by
  have hle := hfirst.serial_le
  refine ⟨Nat.le_trans hle hlast.serial_le, ?_, ?_⟩
  · intro id work hwork
    rcases hlast.chains id work hwork with hnew | ⟨old, hold, hserial⟩
    · exact Or.inl (Nat.le_trans hle hnew)
    · simpa only [hserial] using hfirst.chains id old hold
  · intro id work hwork
    rcases hlast.speech id work hwork with hnew | ⟨old, hold, hserial⟩
    · exact Or.inl (Nat.le_trans hle hnew)
    · simpa only [hserial] using hfirst.speech id old hold

/-- A token that was given out and cancelled stays cancelled. -/
theorem cancelled {before after : TaskRegistry} (hgrows : before.Grows after) {token : Token}
    (hserial : token.serial < before.nextSerial) (hcancelled : before.isCancelled token = true) :
    after.isCancelled token = true := by
  by_contra hlive
  rw [Bool.not_eq_true] at hlive
  obtain ⟨work, hwork, hheld⟩ := (after.isCancelled_eq_false_iff token).1 hlive
  have hbefore : before.isCancelled token = false := by
    rw [isCancelled_eq_false_iff]
    rcases hheld with hchains | hspeech
    · rcases hgrows.chains _ work hwork with hnew | ⟨old, hold, hsame⟩
      · omega
      · exact ⟨old, hold, Or.inl (hsame.trans hchains)⟩
    · rcases hgrows.speech _ work hwork with hnew | ⟨old, hold, hsame⟩
      · omega
      · exact ⟨old, hold, Or.inr (hsame.trans hspeech)⟩
  rw [hcancelled] at hbefore
  cases hbefore

/-- Rewriting an entry takes no token back if its serials are new or were there before. -/
theorem of_rewrites {before after : TaskRegistry} {id : Nat} {entry : Option SpriteWork}
    (hrewrites : before.Rewrites after id entry)
    (hchains : ∀ work, entry = some work →
      before.nextSerial ≤ work.chains ∨ ∃ old, before.work? id = some old ∧ old.chains = work.chains)
    (hspeech : ∀ work, entry = some work →
      before.nextSerial ≤ work.speech ∨ ∃ old, before.work? id = some old ∧ old.speech = work.speech) :
    before.Grows after := by
  refine ⟨hrewrites.serial_le, ?_, ?_⟩
  all_goals
    intro other work hwork
    rw [hrewrites.work?] at hwork
    split at hwork
    case isTrue hid =>
      subst hid
      first
        | exact hchains work hwork
        | exact hspeech work hwork
    case isFalse => exact Or.inr ⟨work, hwork, rfl⟩

/-- An entry that is sure to be there has the tokens it had, or new ones. -/
private theorem entry (r : TaskRegistry) (id : Nat) :
    (r.nextSerial ≤ (r.entry id).chains ∨ ∃ old, r.work? id = some old ∧ old.chains = (r.entry id).chains) ∧
      (r.nextSerial ≤ (r.entry id).speech ∨
        ∃ old, r.work? id = some old ∧ old.speech = (r.entry id).speech) := by
  unfold TaskRegistry.entry
  cases r.work? id with
  | some work => exact ⟨Or.inr ⟨work, rfl, rfl⟩, Or.inr ⟨work, rfl, rfl⟩⟩
  | none => exact ⟨Or.inl (Nat.le_refl _), Or.inl (Nat.le_succ _)⟩

theorem ensure (r : TaskRegistry) (id : Nat) : r.Grows (r.ensure id) := by
  obtain ⟨hchains, hspeech⟩ := entry r id
  apply of_rewrites (r.rewrites_ensure id)
  · rintro _ ⟨⟩
    exact hchains
  · rintro _ ⟨⟩
    exact hspeech

/-- Starting a chain takes no token back. -/
theorem startChain (r : TaskRegistry) (id : Nat) : r.Grows (r.startChain id) := by
  obtain ⟨hchains, hspeech⟩ := entry r id
  apply of_rewrites (r.rewrites_startChain id)
  · rintro _ ⟨⟩
    exact hchains
  · rintro _ ⟨⟩
    exact hspeech

/-- Cancelling chains takes no token back. -/
theorem cancelChains (r : TaskRegistry) (id : Nat) : r.Grows (r.cancelChains id) := by
  apply of_rewrites (r.rewrites_cancelChains id)
  · intro work hwork
    obtain ⟨old, hold, rfl⟩ := Option.map_eq_some_iff.1 hwork
    exact Or.inl (Nat.le_refl _)
  · intro work hwork
    obtain ⟨old, hold, rfl⟩ := Option.map_eq_some_iff.1 hwork
    exact Or.inr ⟨old, hold, rfl⟩

/-- Finishing a chain takes no token back. -/
theorem finishChain (r : TaskRegistry) (id : Nat) {token : Token}
    (hlive : r.isCancelled token = false) : r.Grows (r.finishChain id token) := by
  apply of_rewrites (rewrites_finishChain hlive id)
  all_goals
    intro work hwork
    obtain ⟨old, hold, rfl⟩ := Option.map_eq_some_iff.1 hwork
    exact Or.inr ⟨old, hold, rfl⟩

/-- Cancelling all work of a sprite takes no token back. -/
theorem cancelSprite (r : TaskRegistry) (id : Nat) : r.Grows (r.cancelSprite id) :=
  of_rewrites (r.rewrites_cancelSprite id) nofun nofun

/-- Cancelling everything takes no token back. -/
theorem cancelAll (r : TaskRegistry) : r.Grows r.cancelAll :=
  ⟨Nat.le_refl _, nofun, nofun⟩

end Grows

/-- What watches a token. -/
inductive Watcher where
  | chain
  | timer
deriving DecidableEq, Repr

/-- The serial of the token that this kind of task watches at a sprite. -/
def Watcher.serial : Watcher → SpriteWork → Nat
  | chain, work => work.chains
  | timer, work => work.speech

/-- The registry has this token for tasks of this kind at its sprite. -/
def Holds (r : TaskRegistry) (watcher : Watcher) (token : Token) : Prop :=
  (r.work? token.sprite).map watcher.serial = some token.serial

namespace Holds

variable {r : TaskRegistry} {watcher : Watcher} {token : Token}

/-- A token whose serial stands in the entry of its sprite is live. -/
theorem live (h : r.Holds watcher token) : r.isCancelled token = false := by
  obtain ⟨work, hwork, hserial⟩ := Option.map_eq_some_iff.1 h
  refine (r.isCancelled_eq_false_iff token).2 ⟨work, hwork, ?_⟩
  cases watcher with
  | chain => exact Or.inl hserial
  | timer => exact Or.inr hserial

/-- A live token was given out. -/
theorem serial_lt (hr : r.WellFormed) (h : r.Holds watcher token) : token.serial < r.nextSerial := by
  obtain ⟨work, hwork, hserial⟩ := Option.map_eq_some_iff.1 h
  obtain ⟨hchains, hspeech, -⟩ := hr _ work hwork
  cases watcher with
  | chain => exact hserial ▸ hchains
  | timer => exact hserial ▸ hspeech

/-- Rewriting an entry keeps a token that the new entry still has the serial of. -/
theorem of_rewrites {after : TaskRegistry} {id : Nat} {entry : Option SpriteWork}
    (h : r.Holds watcher token) (hrewrites : r.Rewrites after id entry)
    (hentry : token.sprite = id → ∀ work, r.work? id = some work →
      ∃ later, entry = some later ∧ watcher.serial later = watcher.serial work) :
    after.Holds watcher token := by
  obtain ⟨work, hwork, hserial⟩ := Option.map_eq_some_iff.1 h
  rw [Holds, hrewrites.work?]
  split
  case isTrue hid =>
    rw [hid] at hwork
    obtain ⟨later, rfl, hsame⟩ := hentry hid work hwork
    exact congrArg some (hsame.trans hserial)
  case isFalse => exact h

/-- Registering a sprite keeps every live token. -/
theorem ensure (h : r.Holds watcher token) (id : Nat) : (r.ensure id).Holds watcher token := by
  apply h.of_rewrites (r.rewrites_ensure id)
  intro _ work hwork
  exact ⟨_, rfl, by rw [entry, hwork, Option.getD_some]⟩

/-- Starting a chain keeps every live token. -/
theorem startChain (h : r.Holds watcher token) (id : Nat) : (r.startChain id).Holds watcher token := by
  apply h.of_rewrites (r.rewrites_startChain id)
  intro _ work hwork
  refine ⟨_, rfl, ?_⟩
  rw [entry, hwork, Option.getD_some]
  cases watcher <;> rfl

/-- Finishing a chain keeps every live token. -/
theorem finishChain (h : r.Holds watcher token) (id : Nat) {finished : Token}
    (hlive : r.isCancelled finished = false) : (r.finishChain id finished).Holds watcher token := by
  apply h.of_rewrites (rewrites_finishChain hlive id)
  intro _ work hwork
  refine ⟨_, congrArg (Option.map _) hwork, ?_⟩
  cases watcher <;> rfl

/-- Cancelling the chains of a sprite leaves its timers alone, and all other sprites. -/
theorem cancelChains (h : r.Holds watcher token) {id : Nat}
    (hother : watcher = .chain → token.sprite ≠ id) : (r.cancelChains id).Holds watcher token := by
  apply h.of_rewrites (r.rewrites_cancelChains id)
  intro hid work hwork
  refine ⟨_, congrArg (Option.map _) hwork, ?_⟩
  cases watcher with
  | chain => exact absurd hid (hother rfl)
  | timer => rfl

/-- Cancelling all work of a sprite keeps the live tokens of the others. -/
theorem cancelSprite (h : r.Holds watcher token) {id : Nat} (hid : token.sprite ≠ id) :
    (r.cancelSprite id).Holds watcher token := by
  rwa [Holds, work?_cancelSprite, if_neg hid]

end Holds

/-- The token that a new chain gets is live. -/
theorem holds_chainToken {r : TaskRegistry} {id : Nat} {work : SpriteWork}
    (hwork : r.work? id = some work) : r.Holds .chain (r.chainToken id) := by
  rw [Holds, chainToken, hwork]
  rfl

/-- The token that a new timer gets is live. -/
theorem holds_speechToken {r : TaskRegistry} {id : Nat} {work : SpriteWork}
    (hwork : r.work? id = some work) : r.Holds .timer (r.speechToken id) := by
  rw [Holds, speechToken, hwork]
  rfl

end SpriteStage.TaskRegistry
