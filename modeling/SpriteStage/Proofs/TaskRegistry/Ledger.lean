import Mathlib.Data.Finset.Card
import SpriteStage.Proofs.TaskRegistry.Tokens

namespace SpriteStage.TaskRegistry

/-- A call on the registry. Chains are numbered in the order in which they were started, and finished by
    their numbers. -/
inductive Call where
  | startChain (id : Nat)
  | speechToken (id : Nat)
  | finishChain (chain : Nat)
  | cancelChains (id : Nat)
  | cancelSprite (id : Nat)
  | cancelAll
deriving DecidableEq, Repr

/-- The call cancels the tokens that this kind of task watches at a sprite. -/
def Call.stops (watcher : Watcher) (id : Nat) : Call → Bool
  | cancelChains other => watcher = .chain && other = id
  | cancelSprite other => other = id
  | cancelAll => true
  | _ => false

/-- A token that was handed out, with the calls made since. -/
structure Issue where
  token : Token
  since : List Call

namespace Issue

def note (call : Call) (issue : Issue) : Issue :=
  { issue with since := issue.since ++ [call] }

/-- A call since then cancelled what this kind of task watches at the sprite. -/
def stopped (watcher : Watcher) (issue : Issue) : Bool :=
  issue.since.any (·.stops watcher issue.token.sprite)

/-- A later call stops what was issued if it stops the work of that sprite. -/
theorem stopped_note (watcher : Watcher) (call : Call) (issue : Issue) :
    (issue.note call).stopped watcher =
      (issue.stopped watcher || call.stops watcher issue.token.sprite) := by
  simp [stopped, note]

end Issue

/-- The tokens of chains and of speech timers in the order in which they were handed out. -/
structure Ledger where
  chains : List Issue
  timers : List Issue

namespace Ledger

/-- The call is written down under every token that was handed out before. -/
def note (call : Call) (l : Ledger) : Ledger :=
  ⟨l.chains.map (·.note call), l.timers.map (·.note call)⟩

/-- The chain with this number was started for the sprite and has been neither cancelled nor finished. -/
def isRunning (l : Ledger) (id chain : Nat) : Bool :=
  l.chains[chain]?.any fun issue => issue.token.sprite = id && !issue.stopped .chain &&
    !issue.since.contains (.finishChain chain)

/-- The running chains of a sprite, by their numbers. -/
def running (l : Ledger) (id : Nat) : Finset Nat :=
  {chain ∈ Finset.range l.chains.length | l.isRunning id chain}

/-- The running chains of a sprite are those that were started, not stopped since and
    not finished. -/
theorem mem_running_iff {l : Ledger} {id chain : Nat} : chain ∈ l.running id ↔
    ∃ issue, l.chains[chain]? = some issue ∧ issue.token.sprite = id ∧
      issue.stopped .chain = false ∧ .finishChain chain ∉ issue.since := by
  unfold running isRunning
  rw [Finset.mem_filter, Finset.mem_range]
  constructor
  · rintro ⟨hlength, hrunning⟩
    rw [List.getElem?_eq_getElem hlength] at hrunning
    refine ⟨_, List.getElem?_eq_getElem hlength, ?_⟩
    simpa [and_assoc] using hrunning
  · rintro ⟨issue, hissue, hrunning⟩
    refine ⟨(List.getElem?_eq_some_iff.1 hissue).1, ?_⟩
    simpa [hissue, and_assoc] using hrunning

/-- A call cancels all running chains of the sprites that it covers, and a finish ends one. -/
theorem mem_running_note_iff {l : Ledger} {call : Call} {id chain : Nat} :
    chain ∈ (l.note call).running id ↔ chain ∈ l.running id ∧
      call.stops .chain id = false ∧ call ≠ .finishChain chain := by
  rw [mem_running_iff, mem_running_iff]
  simp only [note, List.getElem?_map, Option.map_eq_some_iff]
  constructor
  · rintro ⟨_, ⟨issue, hissue, rfl⟩, rfl, hstopped, hfinished⟩
    rw [Issue.stopped_note, Bool.or_eq_false_iff] at hstopped
    simp only [Issue.note, List.mem_append, List.mem_singleton, not_or] at hfinished
    exact ⟨⟨issue, hissue, rfl, hstopped.1, hfinished.1⟩, hstopped.2, Ne.symm hfinished.2⟩
  · rintro ⟨⟨issue, hissue, rfl, hstopped, hfinished⟩, hcovered, hother⟩
    refine ⟨issue.note call, ⟨issue, hissue, rfl⟩, rfl, ?_, ?_⟩
    · rw [Issue.stopped_note, hstopped, hcovered]
      rfl
    · simpa [Issue.note] using ⟨hfinished, Ne.symm hother⟩

/-- A call that neither cancels nor finishes leaves the running chains as they are. -/
theorem running_note_of_stops {l : Ledger} {call : Call} {id : Nat}
    (hcovered : call.stops .chain id = false) (hother : ∀ chain, call ≠ .finishChain chain) :
    (l.note call).running id = l.running id := by
  ext chain
  simp [mem_running_note_iff, hcovered, hother]

/-- A call that stops the chains of a sprite leaves none of them running. -/
theorem running_note_of_covered {l : Ledger} {call : Call} {id : Nat}
    (hcovered : call.stops .chain id = true) : (l.note call).running id = ∅ := by
  ext chain
  simp [mem_running_note_iff, hcovered]

/-- A chain that is finished runs no more. -/
theorem running_note_finishChain (l : Ledger) (id chain : Nat) :
    (l.note (.finishChain chain)).running id = (l.running id).erase chain := by
  ext other
  rw [mem_running_note_iff, Finset.mem_erase, and_comm]
  simp [Call.stops, eq_comm]

/-- A chain that has not been started does not run. -/
theorem length_notMem_running (l : Ledger) (id : Nat) : l.chains.length ∉ l.running id := by
  simp [mem_running_iff]

/-- The chain that is started last has the first number that is free. -/
theorem running_start (l : Ledger) (token : Token) (id : Nat) :
    ({ l with chains := l.chains ++ [⟨token, []⟩] } : Ledger).running id =
      if token.sprite = id then insert l.chains.length (l.running id) else l.running id := by
  ext chain
  rw [mem_running_iff]
  rcases Nat.lt_trichotomy chain l.chains.length with hlt | rfl | hgt
  · have hne : chain ≠ l.chains.length := Nat.ne_of_lt hlt
    simp only [List.getElem?_append_left hlt, ← mem_running_iff]
    split <;> simp [hne]
  · have hfree := l.length_notMem_running id
    by_cases hid : token.sprite = id <;> simp [hid, hfree, Issue.stopped]
  · have hfree : chain ∉ l.running id := by
      rintro hrunning
      obtain ⟨issue, hissue, -⟩ := mem_running_iff.1 hrunning
      have := (List.getElem?_eq_some_iff.1 hissue).1
      omega
    have hnone : (l.chains ++ [⟨token, []⟩])[chain]? = none :=
      List.getElem?_eq_none (by simpa [Nat.succ_le_iff] using hgt)
    have hne : chain ≠ l.chains.length := Nat.ne_of_gt hgt
    split <;> simp [hnone, hfree, hne]

end Ledger

/-- From one registry to the other a call was made: the tokens that it covers are cancelled, the others are
    held as before, and a token that was cancelled stays so. -/
structure Serves (before after : TaskRegistry) (call : Call) : Prop where
  wellFormed : after.WellFormed
  grows : before.Grows after
  keeps : ∀ watcher token, before.Holds watcher token → call.stops watcher token.sprite = false →
    after.Holds watcher token
  cancels : ∀ watcher token, before.Holds watcher token → call.stops watcher token.sprite = true →
    after.isCancelled token = true

/-- A call that cancels nothing keeps every token that is held. -/
theorem Serves.of_holds {before after : TaskRegistry} {call : Call} (hafter : after.WellFormed)
    (hgrows : before.Grows after) (hstops : ∀ watcher id, call.stops watcher id = false)
    (hkept : ∀ watcher token, before.Holds watcher token → after.Holds watcher token) :
    before.Serves after call := by
  refine ⟨hafter, hgrows, fun watcher token hheld _ => hkept watcher token hheld, ?_⟩
  intro watcher token _ hcovered
  rw [hstops] at hcovered
  cases hcovered

section

variable {r : TaskRegistry} (h : r.WellFormed)

include h

theorem serves_startChain (id : Nat) : r.Serves (r.startChain id) (.startChain id) :=
  .of_holds (h.startChain id) (.startChain r id) (fun _ _ => rfl) fun _ _ hheld => hheld.startChain id

theorem serves_ensure (id : Nat) : r.Serves (r.ensure id) (.speechToken id) :=
  .of_holds (h.ensure id) (.ensure r id) (fun _ _ => rfl) fun _ _ hheld => hheld.ensure id

theorem serves_finishChain (id : Nat) (token : Token) (chain : Nat) :
    r.Serves (r.finishChain id token) (.finishChain chain) := by
  cases hlive : r.isCancelled token with
  | true =>
    rw [finishChain, if_pos hlive]
    exact .of_holds h (.refl r) (fun _ _ => rfl) fun _ _ hheld => hheld
  | false =>
    exact .of_holds (h.finishChain id hlive) (.finishChain r id hlive) (fun _ _ => rfl)
      fun _ _ hheld => hheld.finishChain id hlive

theorem serves_cancelChains (id : Nat) : r.Serves (r.cancelChains id) (.cancelChains id) := by
  refine ⟨h.cancelChains id, .cancelChains r id, ?_, ?_⟩
  · intro watcher token hheld hother
    refine hheld.cancelChains ?_
    rintro rfl rfl
    simp [Call.stops] at hother
  · intro watcher token hheld hcovered
    obtain ⟨work, hwork, hserial⟩ := Option.map_eq_some_iff.1 hheld
    obtain ⟨hchains, -, hne⟩ := h _ _ hwork
    obtain ⟨rfl, rfl⟩ : watcher = .chain ∧ id = token.sprite := by
      simpa [Call.stops] using hcovered
    rw [Watcher.serial] at hserial
    apply isCancelled_cancelChains_self (by omega)
    intro other hother
    rw [hwork, Option.some.injEq] at hother
    subst hother
    omega

theorem serves_cancelSprite (id : Nat) : r.Serves (r.cancelSprite id) (.cancelSprite id) := by
  refine ⟨h.cancelSprite id, .cancelSprite r id, ?_, ?_⟩
  · intro watcher token hheld hother
    exact hheld.cancelSprite (Ne.symm (of_decide_eq_false hother))
  · intro watcher token _ hcovered
    have hid : id = token.sprite := of_decide_eq_true hcovered
    rw [hid]
    exact r.isCancelled_cancelSprite_self token

omit h in
theorem serves_cancelAll : r.Serves r.cancelAll .cancelAll :=
  ⟨.cancelAll r, .cancelAll r, nofun, fun _ token _ _ => r.isCancelled_cancelAll token⟩

end

/-- A token that was handed out is held until a call cancels it, and cancelled from then on. -/
structure Keeps (r : TaskRegistry) (watcher : Watcher) (issue : Issue) : Prop where
  serial_lt : issue.token.serial < r.nextSerial
  held : issue.stopped watcher = false → r.Holds watcher issue.token
  cancelled : issue.stopped watcher = true → r.isCancelled issue.token = true

/-- What the registry keeps of a token answers whether it was stopped. -/
theorem Keeps.isCancelled {r : TaskRegistry} {watcher : Watcher} {issue : Issue}
    (h : r.Keeps watcher issue) : r.isCancelled issue.token = issue.stopped watcher := by
  cases hstopped : issue.stopped watcher with
  | true => exact h.cancelled hstopped
  | false => exact (h.held hstopped).live

/-- A token that was just given out is kept. -/
theorem Holds.keeps {r : TaskRegistry} (hr : r.WellFormed) {watcher : Watcher} {token : Token}
    (h : r.Holds watcher token) : r.Keeps watcher ⟨token, []⟩ :=
  ⟨h.serial_lt hr, fun _ => h, nofun⟩

/-- One call on the registry, written down. -/
theorem Serves.note {before after : TaskRegistry} {call : Call} (h : before.Serves after call)
    {watcher : Watcher} {issue : Issue} (hissue : before.Keeps watcher issue) :
    after.Keeps watcher (issue.note call) := by
  refine ⟨Nat.lt_of_lt_of_le hissue.serial_lt h.grows.serial_le, ?_, ?_⟩
  · intro hstopped
    rw [Issue.stopped_note, Bool.or_eq_false_iff] at hstopped
    exact h.keeps _ _ (hissue.held hstopped.1) hstopped.2
  · intro hstopped
    cases hbefore : issue.stopped watcher with
    | true => exact h.grows.cancelled hissue.serial_lt (hissue.cancelled hbefore)
    | false =>
      rw [Issue.stopped_note, hbefore, Bool.false_or] at hstopped
      exact h.cancels _ _ (hissue.held hbefore) hstopped

/-- A call that is served keeps all that was issued before. -/
theorem Serves.note_all {before after : TaskRegistry} {call : Call} (h : before.Serves after call)
    {watcher : Watcher} {issues : List Issue} (hissues : ∀ issue ∈ issues, before.Keeps watcher issue) :
    ∀ issue ∈ issues.map (·.note call), after.Keeps watcher issue := by
  rintro _ hissue
  obtain ⟨issue, hmem, rfl⟩ := List.mem_map.1 hissue
  exact h.note (hissues issue hmem)

/-- A registry with its ledger. -/
structure Books where
  registry : TaskRegistry
  ledger : Ledger

namespace Books

def new : Books := ⟨.empty, [], []⟩

/-- A call is made and written down. A finish comes with the sprite and the token of its chain. -/
def make (b : Books) (call : Call) : Books :=
  let noted := b.ledger.note call
  match call with
  | .startChain id =>
    let registry := b.registry.startChain id
    ⟨registry, { noted with chains := noted.chains ++ [⟨registry.chainToken id, []⟩] }⟩
  | .speechToken id =>
    let registry := b.registry.ensure id
    ⟨registry, { noted with timers := noted.timers ++ [⟨registry.speechToken id, []⟩] }⟩
  | .finishChain chain =>
    let finish (issue : Issue) := b.registry.finishChain issue.token.sprite issue.token
    ⟨b.ledger.chains[chain]?.elim b.registry finish, noted⟩
  | .cancelChains id => ⟨b.registry.cancelChains id, noted⟩
  | .cancelSprite id => ⟨b.registry.cancelSprite id, noted⟩
  | .cancelAll => ⟨b.registry.cancelAll, noted⟩

/-- What a call answers: a start and a request hand out a token, a finish tells whether it was the last chain
    of its sprite, and cancelling chains tells how many were stopped. -/
inductive Answer where
  | token (token : Token)
  | last (isLast : Bool)
  | stopped (count : Nat)
  | nothing
deriving DecidableEq, Repr

def answer (b : Books) : Call → Answer
  | .startChain id => .token ((b.registry.startChain id).chainToken id)
  | .speechToken id => .token ((b.registry.ensure id).speechToken id)
  | .finishChain chain =>
    .last (b.ledger.chains[chain]?.any fun issue => b.registry.isLast issue.token.sprite issue.token)
  | .cancelChains id => .stopped (b.registry.active id)
  | .cancelSprite _ | .cancelAll => .nothing

/-- A chain is finished only after it was started, and only once. -/
def Allows (b : Books) : Call → Prop
  | .finishChain chain =>
    ∃ issue, b.ledger.chains[chain]? = some issue ∧ .finishChain chain ∉ issue.since
  | _ => True

/-- The books of a new registry after any row of calls, each allowed when it was made. -/
inductive Kept : Books → Prop where
  | new : Kept new
  | make {b : Books} {call : Call} : Kept b → b.Allows call → Kept (b.make call)

/-- The registry is as the ledger has it. -/
structure Sound (b : Books) : Prop where
  wellFormed : b.registry.WellFormed
  chains : ∀ issue ∈ b.ledger.chains, b.registry.Keeps .chain issue
  timers : ∀ issue ∈ b.ledger.timers, b.registry.Keeps .timer issue
  active : ∀ id, b.registry.active id = (b.ledger.running id).card

theorem sound_new : new.Sound :=
  ⟨.empty, nofun, nofun, fun _ => rfl⟩

/-- A call that hands out no token. -/
theorem Sound.of_serves {b : Books} (h : b.Sound) {after : TaskRegistry} {call : Call}
    (hserves : b.registry.Serves after call)
    (hactive : ∀ id, after.active id = ((b.ledger.note call).running id).card) :
    Sound ⟨after, b.ledger.note call⟩ :=
  ⟨hserves.wellFormed, hserves.note_all h.chains, hserves.note_all h.timers, hactive⟩

/-- Starting a chain keeps the books sound: its token is new, and it is counted. -/
theorem Sound.startChain {b : Books} (h : b.Sound) (id : Nat) : (b.make (.startChain id)).Sound := by
  have hserves := serves_startChain h.wellFormed id
  have hheld : (b.registry.startChain id).Holds .chain ((b.registry.startChain id).chainToken id) :=
    holds_chainToken (by rw [work?_startChain, if_pos rfl])
  refine ⟨hserves.wellFormed, ?_, hserves.note_all h.timers, ?_⟩
  · refine List.forall_mem_append.2 ⟨hserves.note_all h.chains, ?_⟩
    rw [List.forall_mem_singleton]
    exact hheld.keeps hserves.wellFormed
  · intro other
    have hsame : (b.ledger.note (.startChain id)).running other = b.ledger.running other :=
      Ledger.running_note_of_stops rfl nofun
    have hfree := (b.ledger.note (.startChain id)).length_notMem_running other
    simp only [make]
    rw [active_startChain, Ledger.running_start]
    simp only [chainToken, eq_comm (a := id)]
    split
    case isTrue hid => rw [Finset.card_insert_of_notMem hfree, hsame, hid, h.active]
    case isFalse => rw [hsame, h.active]

/-- Giving out a token for a timer keeps the books sound. -/
theorem Sound.speechToken {b : Books} (h : b.Sound) (id : Nat) : (b.make (.speechToken id)).Sound := by
  have hserves := serves_ensure h.wellFormed id
  have hheld : (b.registry.ensure id).Holds .timer ((b.registry.ensure id).speechToken id) :=
    holds_speechToken (by rw [work?_ensure, if_pos rfl])
  refine ⟨hserves.wellFormed, hserves.note_all h.chains, ?_, ?_⟩
  · refine List.forall_mem_append.2 ⟨hserves.note_all h.timers, ?_⟩
    rw [List.forall_mem_singleton]
    exact hheld.keeps hserves.wellFormed
  · intro other
    have hsame : (b.ledger.note (.speechToken id)).running other = b.ledger.running other :=
      Ledger.running_note_of_stops rfl nofun
    exact (active_ensure ..).trans ((h.active other).trans (congrArg Finset.card hsame.symm))

/-- A chain that is finished in order runs, unless it was cancelled. -/
theorem Sound.mem_running_of_live {b : Books} (h : b.Sound) {chain : Nat} {issue : Issue}
    (hissue : b.ledger.chains[chain]? = some issue) (honce : .finishChain chain ∉ issue.since)
    (hlive : b.registry.isCancelled issue.token = false) :
    chain ∈ b.ledger.running issue.token.sprite := by
  rw [(h.chains issue (List.mem_of_getElem? hissue)).isCancelled] at hlive
  exact Ledger.mem_running_iff.2 ⟨issue, hissue, rfl, hlive, honce⟩

/-- Finishing a chain that may be finished keeps the books sound. -/
theorem Sound.finishChain {b : Books} (h : b.Sound) {chain : Nat}
    (hallowed : b.Allows (.finishChain chain)) : (b.make (.finishChain chain)).Sound := by
  obtain ⟨issue, hissue, honce⟩ := hallowed
  simp only [make, hissue, Option.elim_some]
  apply h.of_serves (serves_finishChain h.wellFormed _ _ chain)
  intro id
  rw [Ledger.running_note_finishChain]
  cases hlive : b.registry.isCancelled issue.token with
  | true =>
    have hstopped : chain ∉ b.ledger.running id := by
      rw [Ledger.mem_running_iff]
      rintro ⟨other, hother, -, hrunning, -⟩
      cases hissue.symm.trans hother
      rw [← (h.chains issue (List.mem_of_getElem? hissue)).isCancelled, hlive] at hrunning
      cases hrunning
    rw [TaskRegistry.finishChain, if_pos hlive, Finset.erase_eq_of_notMem hstopped, h.active]
  | false =>
    rw [active_finishChain hlive]
    have hrunning := h.mem_running_of_live hissue honce hlive
    split
    case isTrue hid =>
      subst hid
      rw [Finset.card_erase_of_mem hrunning, h.active]
    case isFalse hid =>
      have hother : chain ∉ b.ledger.running id := by
        rw [Ledger.mem_running_iff]
        rintro ⟨other, hother, hsprite, -⟩
        cases hissue.symm.trans hother
        exact hid hsprite.symm
      rw [Finset.erase_eq_of_notMem hother, h.active]

/-- A call that cancels writes off the running chains of the sprites that it covers. -/
theorem Sound.of_cancelled {b : Books} (h : b.Sound) {after : TaskRegistry} {call : Call}
    (hserves : b.registry.Serves after call) (hother : ∀ chain, call ≠ .finishChain chain)
    (hactive : ∀ id, after.active id = if call.stops .chain id then 0 else b.registry.active id) :
    Sound ⟨after, b.ledger.note call⟩ := by
  apply h.of_serves hserves
  intro id
  rw [hactive]
  split
  case isTrue hcovered => rw [Ledger.running_note_of_covered hcovered, Finset.card_empty]
  case isFalse hcovered =>
    rw [Ledger.running_note_of_stops (Bool.eq_false_iff.2 hcovered) hother, h.active]

/-- One call keeps the registry as the ledger has it. -/
theorem Sound.make {b : Books} (h : b.Sound) {call : Call} (hallowed : b.Allows call) :
    (b.make call).Sound := by
  cases call with
  | startChain id => exact h.startChain id
  | speechToken id => exact h.speechToken id
  | finishChain chain => exact h.finishChain hallowed
  | cancelChains id =>
    apply h.of_cancelled (serves_cancelChains h.wellFormed id) nofun
    intro other
    by_cases hid : other = id
    · subst hid
      simp [Call.stops, active_cancelChains_self]
    · simp [Call.stops, Ne.symm hid, active_cancelChains_of_ne _ hid]
  | cancelSprite id =>
    apply h.of_cancelled (serves_cancelSprite h.wellFormed id) nofun
    intro other
    by_cases hid : other = id
    · subst hid
      simp [Call.stops, active_cancelSprite_self]
    · simp [Call.stops, Ne.symm hid, active_cancelSprite_of_ne _ hid]
  | cancelAll => exact h.of_cancelled serves_cancelAll nofun fun _ => rfl

/-- All books that are kept are sound. -/
theorem Kept.sound {b : Books} (h : b.Kept) : b.Sound := by
  induction h with
  | new => exact sound_new
  | make _ hallowed ih => exact ih.make hallowed

/-- A finish answers whether the chain was not cancelled and is the only one that runs. -/
theorem Sound.isLast_iff {b : Books} (h : b.Sound) {chain : Nat} {issue : Issue}
    (hissue : b.ledger.chains[chain]? = some issue) (honce : .finishChain chain ∉ issue.since) :
    b.registry.isLast issue.token.sprite issue.token = true ↔
      b.registry.isCancelled issue.token = false ∧
        b.ledger.running issue.token.sprite = {chain} := by
  cases hlive : b.registry.isCancelled issue.token with
  | true => simp [TaskRegistry.isLast, hlive]
  | false =>
    obtain ⟨work, hwork, -⟩ := (b.registry.isCancelled_eq_false_iff issue.token).1 hlive
    have hrunning := h.mem_running_of_live hissue honce hlive
    simp only [TaskRegistry.isLast, hlive, hwork, h.active, Bool.not_false, Option.isSome_some, Bool.and_self,
      Bool.true_and, decide_eq_true_eq, true_and]
    constructor
    · intro hcard
      exact Finset.eq_singleton_iff_unique_mem.2
        ⟨hrunning, fun other hother => Finset.card_le_one.1 hcard other hother chain hrunning⟩
    · intro honly
      rw [honly, Finset.card_singleton]

/-- A finish of a chain that was not cancelled takes one from a count that is not zero. -/
theorem Sound.active_finishChain_add_one {b : Books} (h : b.Sound) {chain : Nat} {issue : Issue}
    (hissue : b.ledger.chains[chain]? = some issue) (honce : .finishChain chain ∉ issue.since)
    (hlive : b.registry.isCancelled issue.token = false) :
    (b.make (.finishChain chain)).registry.active issue.token.sprite + 1 =
      b.registry.active issue.token.sprite := by
  have hpos : 0 < b.registry.active issue.token.sprite := by
    rw [h.active]
    exact Finset.card_pos.2 ⟨chain, h.mem_running_of_live hissue honce hlive⟩
  simp only [Books.make, hissue, Option.elim_some]
  rw [active_finishChain hlive, if_pos rfl, Nat.sub_add_cancel hpos]

end Books

/-- After any row of calls that finishes a started chain at most once, the registry counts for every sprite the
    chains that run by the ledger, and has cancelled just the tokens that a later call covered. A finish answers
    whether the chain was not cancelled and is the only one that runs, and takes an uncancelled chain from a count
    that is not zero; cancelling chains answers with the number that run. -/
theorem answers_as_ledger {b : Books} (hkept : b.Kept) :
    (∀ id, b.registry.active id = (b.ledger.running id).card) ∧
    (∀ issue ∈ b.ledger.chains, (b.registry.isCancelled issue.token = true ↔
      ∃ call ∈ issue.since, call.stops .chain issue.token.sprite = true)) ∧
    (∀ issue ∈ b.ledger.timers, (b.registry.isCancelled issue.token = true ↔
      ∃ call ∈ issue.since, call.stops .timer issue.token.sprite = true)) ∧
    (∀ chain issue, b.ledger.chains[chain]? = some issue → .finishChain chain ∉ issue.since →
      (b.answer (.finishChain chain) = .last true ↔ b.registry.isCancelled issue.token = false ∧
        b.ledger.running issue.token.sprite = {chain}) ∧
      (b.registry.isCancelled issue.token = false →
        (b.make (.finishChain chain)).registry.active issue.token.sprite + 1 =
          b.registry.active issue.token.sprite)) ∧
    ∀ id, b.answer (.cancelChains id) = .stopped (b.ledger.running id).card := by
  have hsound := hkept.sound
  refine ⟨hsound.active, ?_, ?_, ?_, ?_⟩
  · intro issue hissue
    rw [(hsound.chains issue hissue).isCancelled, Issue.stopped, List.any_eq_true]
  · intro issue hissue
    rw [(hsound.timers issue hissue).isCancelled, Issue.stopped, List.any_eq_true]
  · intro chain issue hissue honce
    refine ⟨?_, hsound.active_finishChain_add_one hissue honce⟩
    rw [Books.answer, hissue, Option.any_some, Books.Answer.last.injEq, hsound.isLast_iff hissue honce]
  · intro id
    rw [Books.answer, hsound.active]

/-- Two chains of a sprite are cancelled, its speech timer is not, and the first of them finishes late, beside a
    chain that was started since. -/
def lateFinish : Books :=
  (((((Books.new.make (.startChain 1)).make (.speechToken 1)).make (.startChain 1)).make
    (.cancelChains 1)).make (.startChain 1)).make (.finishChain 0)

theorem answers_as_ledger_lateFinish :
    lateFinish.Kept ∧ lateFinish.registry.active 1 = 1 ∧
      lateFinish.ledger.chains.map (lateFinish.registry.isCancelled ·.token) = [true, true, false] ∧
      lateFinish.ledger.timers.map (lateFinish.registry.isCancelled ·.token) = [false] ∧
      lateFinish.answer (.finishChain 2) = .last true ∧ lateFinish.answer (.cancelChains 1) = .stopped 1 := by
  have hkept : lateFinish.Kept := by
    refine .make (.make (.make (.make (.make (.make .new ?_) ?_) ?_) ?_) ?_) ?_
    all_goals first | exact trivial | exact ⟨_, rfl, by decide⟩
  obtain ⟨hactive, -, -, hfinish, hstopped⟩ := answers_as_ledger hkept
  refine ⟨hkept, ?_, by decide, by decide, ?_, ?_⟩
  · rw [hactive]
    decide
  · exact (hfinish 2 _ rfl (by decide)).1.2 ⟨by decide, by decide⟩
  · rw [hstopped]
    exact congrArg _ (by decide)

end SpriteStage.TaskRegistry
