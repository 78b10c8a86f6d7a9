import SpriteStage.Proofs.Session.Cancellation
import SpriteStage.Proofs.Session.Trading

namespace SpriteStage

variable {α : Type}

/-- The bubble that a block puts up for a time. -/
def Block.timedBubble? (b : Block) : Option Speech :=
  match b.kind? with
  | some .sayForSeconds => some ⟨b.text "message", b.number "seconds" * 1000, false⟩
  | some .thinkForSeconds => some ⟨b.text "message", b.number "seconds" * 1000, true⟩
  | _ => none

/-- What a sprite says. -/
def Store.speech? (store : Store α) (id : Nat) : Option Speech :=
  (store.get? id).map (·.speech)

variable [Scalar α]

/-- A block with a timed bubble puts the bubble up and asks for a timer of its duration. -/
theorem Block.dispatch_of_timedBubble? {b : Block} {bubble : Speech}
    (hbubble : b.timedBubble? = some bubble) (sprite : Sprite α) (context : Context α) :
    b.dispatch sprite context = .speakFor { sprite with speech := bubble } bubble.durationMs := by
  unfold timedBubble? at hbubble
  unfold dispatch
  split at hbubble
  case h_1 hkind =>
    cases hbubble
    rw [hkind]
    rfl
  case h_2 hkind =>
    cases hbubble
    rw [hkind]
    rfl
  case h_3 => cases hbubble

/-- Speaking for a time puts the bubble up and asks for a timer. -/
theorem Stage.execute_of_timedBubble? {stage : Stage α} (h : stage.Tracked) {id : Nat}
    (hknown : stage.store.contains id = true) {b : Block} {bubble : Speech}
    (hbubble : b.timedBubble? = some bubble) :
    (stage.execute id b).1.store.speech? id = some bubble ∧
      (stage.execute id b).2 = .advanceAndClear (Delay.ofMillis bubble.durationMs) := by
  obtain ⟨sprite, hsprite⟩ := (stage.store.contains_iff_get? id).1 hknown
  obtain ⟨point, random, hdraw⟩ := stage.drawFor_eq b
  have hhere : stage.drawFor b = (point, { stage with random := random }) := hdraw stage.hero
  have hdrawn : ({ stage with random := random } : Stage α).Tracked := ⟨h.wellFormed, h.knows⟩
  have hcommit := hdrawn.commit_of_box id (fun _ => { sprite with speech := bubble }) (by
    intro other hother
    rw [hsprite, Option.some.injEq] at hother
    subst hother
    rfl)
  unfold execute
  simp only [hhere, hsprite, Block.dispatch_of_timedBubble? hbubble, hcommit, Store.speech?,
    Store.get?_update, if_true, Option.map_some, and_self]

namespace Session

/-- In the course of a list of events, the sprite gets no bubble from a block or from an undo, and it
    does not trade. -/
def Undisturbed (id : Nat) : List (Event α) → Session α → Prop
  | [], _ => True
  | event :: events, s => ¬ PutsSpeech event s id ∧
      (∀ pair ∈ s.contacts event, pair.involves id = false) ∧ Undisturbed id events (s.handle event)

/-- A task that is under way and not cancelled later on was so all along. -/
theorem contains_of_live_later {s : Session α} (h : s.Consistent) {events : List (Event α)} {m : Nat}
    (hm : m < s.nextTask) {timer : Task α} (htimer : (s.play events).task? m = some timer)
    (hlive : (s.play events).stage.registry.isCancelled timer.token = false) :
    s.stage.store.contains timer.sprite = true := by
  have hprecedes := h.precedes_play events
  obtain ⟨old, hold, hsprite, htoken, _⟩ := hprecedes.task? m timer hm htimer
  obtain ⟨hmem, _⟩ := mem_of_task? hold
  rw [← hsprite]
  apply h.contains_of_live hmem
  by_contra hcancelled
  rw [Bool.not_eq_false] at hcancelled
  have hstill := hprecedes.grows.cancelled (h.accounts.registered old hmem).serial_lt hcancelled
  rw [htoken, hlive] at hstill
  cases hstill

/-- A bubble is up, or it was taken down, as long as the sprite is undisturbed. -/
theorem speech_of_undisturbed {s : Session α} (hs : s.Reachable) {events : List (Event α)} {m : Nat}
    (hm : m < s.nextTask) {timer : Task α} (htimer : (s.play events).task? m = some timer)
    (hlive : (s.play events).stage.registry.isCancelled timer.token = false) {bubble : Speech}
    (hundisturbed : s.Undisturbed timer.sprite events)
    (hspeech : ∀ speech, s.stage.store.speech? timer.sprite = some speech →
      speech = bubble ∨ speech = .cleared) :
    ∀ speech, (s.play events).stage.store.speech? timer.sprite = some speech →
      speech = bubble ∨ speech = .cleared := by
  induction events generalizing s with
  | nil => exact hspeech
  | cons event rest ih =>
    obtain ⟨hputs, hcontacts, hrest⟩ := hundisturbed
    have hknown := contains_of_live_later hs.consistent hm htimer hlive
    obtain ⟨sprite, hsprite⟩ := (Store.contains_iff_get? _ _).1 hknown
    have hm' := Nat.lt_of_lt_of_le hm (hs.consistent.precedes_handle event).nextTask_le
    have hnext : (s.handle event).Reachable := hs.play [event]
    refine ih hnext hm' htimer hlive hrest ?_
    intro speech hshown
    obtain ⟨next, hafter, rfl⟩ := Option.map_eq_some_iff.1 hshown
    rw [store_handle hs.tracked, Store.get?_trade hcontacts] at hafter
    rcases (gives_handlePlain hs.tracked event hsprite hafter).speech with
      hsame | ⟨_, hcleared⟩ | hspeaks
    · rw [hsame]
      apply hspeech
      rw [Store.speech?, hsprite]
      rfl
    · exact Or.inr hcleared
    · exact absurd hspeaks hputs

/-- A timer that has run down takes the bubble of its sprite down and does no more. -/
theorem store_handle_of_clears {s : Session α} (h : s.stage.Tracked) {m : Nat} {timer : Task α}
    (htimer : s.task? m = some timer) (hclears : timer.Clears)
    (hlive : s.stage.registry.isCancelled timer.token = false) :
    (s.handle (.step m)).stage.store =
      s.stage.store.update timer.sprite fun sprite => { sprite with speech := .cleared } := by
  obtain ⟨delay, hwork⟩ := hclears
  have hnot : ¬ s.stage.registry.isCancelled timer.token = true := by simp [hlive]
  have hstep : (timer.step s.now s.stage).stage =
      s.stage.commit timer.sprite fun sprite => { sprite with speech := .cleared } := by
    rw [Task.step, if_neg hnot, hwork]
  have hcommit := h.commit_of_box timer.sprite (fun sprite => { sprite with speech := .cleared })
    fun _ _ => rfl
  simp only [handle, htimer, stage_runTask, hstep, hcommit]

/-- A block that speaks for a time puts its bubble up and starts a timer. -/
theorem handle_of_timedBubble? {s : Session α} (hs : s.Reachable) {n : Nat} {t : Task α} {b : Block}
    {bubble : Speech} (ht : s.task? n = some t) (hact : t.act? s.stage = some (.dispatch b))
    (hbubble : b.timedBubble? = some bubble) :
    (s.handle (.step n)).stage.store.speech? t.sprite = some bubble ∧
      ∃ timer, (s.handle (.step n)).task? s.nextTask = some timer ∧ timer.sprite = t.sprite ∧
        timer.work = .clearSpeech (Delay.ofMillis bubble.durationMs) false ∧
        (s.handle (.step n)).stage.registry.Holds .timer timer.token := by
  obtain ⟨_, hknown, _⟩ := Task.dispatch_of_act? hact
  obtain ⟨hspeech, hafter⟩ := s.stage.execute_of_timedBubble? hs.tracked hknown hbubble
  obtain ⟨next, hstep⟩ := Task.step_of_dispatch hact s.now
  have hhandle : s.handle (.step n) = s.runTask t := by simp only [handle, ht]
  have hconsistent := hs.consistent.handle (.step n)
  refine ⟨?_, ?_⟩
  · rw [hhandle, stage_runTask, hstep]
    exact hspeech
  · let after := next.elim (s.conclude t (s.stage.execute t.sprite b).1) fun left =>
      s.proceed t (s.stage.execute t.sprite b).1 left.1 left.2
    let delay := Delay.ofMillis bubble.durationMs
    have hspawn : s.handle (.step n) = after.spawn t.sprite
        ((s.stage.execute t.sprite b).1.registry.speechToken t.sprite) (.clearSpeech delay false) := by
      rw [hhandle, runTask_eq, hstep, hafter]
      rfl
    have hid : after.nextTask = s.nextTask := by
      change (next.elim _ _ : Session α).nextTask = _
      cases next <;> rfl
    have hregistry : (s.stage.execute t.sprite b).1.registry = s.stage.registry.ensure t.sprite := by
      rw [(Stage.goesOn_execute hknown b).registry, hafter]
      rfl
    have htoken : (s.handle (.step n)).stage.registry.Holds .timer
        ((s.stage.execute t.sprite b).1.registry.speechToken t.sprite) := by
      rw [hhandle, stage_runTask, hstep, hregistry]
      exact TaskRegistry.holds_speechToken ((TaskRegistry.work?_ensure _ _ _).trans (if_pos rfl))
    have hnew : ∃ timer ∈ (s.handle (.step n)).tasks, timer.id = s.nextTask ∧
        timer.sprite = t.sprite ∧ timer.work = .clearSpeech delay false ∧
        timer.token = (s.stage.execute t.sprite b).1.registry.speechToken t.sprite := by
      rw [hspawn]
      exact ⟨_, List.mem_append_right _ (List.mem_singleton.2 rfl), hid, rfl, rfl, rfl⟩
    obtain ⟨timer, hmem, htimer, hsprite, hwork, hwatches⟩ := hnew
    rw [← hwatches] at htoken
    exact ⟨timer, hconsistent.task?_eq_some_iff.2 ⟨hmem, htimer⟩, hsprite, hwork, htoken⟩

/-- The timer of a block that speaks for a time takes down the bubble that it finds, whichever that is.
    It does nothing else, and nothing once it is cancelled, which a reset does and a deletion of its sprite
    and no other event. It finds the bubble of its block, or none, as long as the sprite has got no other
    one since: from a block, from an undo or in a trade. -/
theorem timer_clears_bubble_in_place {s : Session α} (hs : s.Reachable) {n : Nat} {t : Task α}
    {b : Block} {bubble : Speech} (ht : s.task? n = some t)
    (hact : t.act? s.stage = some (.dispatch b)) (hbubble : b.timedBubble? = some bubble) :
    let spoken := s.handle (.step n)
    spoken.stage.store.speech? t.sprite = some bubble ∧
      (∃ timer, spoken.task? s.nextTask = some timer ∧ timer.sprite = t.sprite ∧
        timer.work = .clearSpeech (Delay.ofMillis bubble.durationMs) false) ∧
      ∀ later timer, (spoken.play later).task? s.nextTask = some timer →
        let before := (spoken.play later).stage
        let after := ((spoken.play later).handle (.step s.nextTask)).stage
        (before.registry.isCancelled timer.token = true ↔
          .control .reset ∈ later ∨ .control (.delete t.sprite) ∈ later) ∧
        (before.registry.isCancelled timer.token = true → after = before) ∧
        (before.registry.isCancelled timer.token = false → timer.Clears →
          after.store = before.store.update t.sprite (fun sprite => { sprite with speech := .cleared }) ∧
          after.store.speech? t.sprite = some .cleared ∧
          (spoken.Undisturbed t.sprite later →
            before.store.speech? t.sprite = some bubble ∨
              before.store.speech? t.sprite = some .cleared)) := by
  intro spoken
  obtain ⟨hspoken, first, hfirst, hsprite, hwork, htoken⟩ := handle_of_timedBubble? hs ht hact hbubble
  refine ⟨hspoken, ⟨first, hfirst, hsprite, hwork⟩, ?_⟩
  intro later timer htimer before after
  have hreachable : spoken.Reachable := hs.play [.step n]
  have hlater : (spoken.play later).Reachable := hreachable.play later
  obtain ⟨hmem, hid⟩ := mem_of_task? hfirst
  have hm : s.nextTask < spoken.nextTask := hid ▸ hreachable.consistent.accounts.id_lt first hmem
  obtain ⟨old, hold, hsame, _⟩ :=
    (hreachable.consistent.precedes_play later).task? s.nextTask timer hm htimer
  rw [hfirst, Option.some.injEq] at hold
  subst hold
  have hof : timer.sprite = t.sprite := hsame.symm.trans hsprite
  refine ⟨?_, ?_, ?_⟩
  · rw [← hsprite, ← Control.exists_clears_iff]
    exact isCancelled_iff_of_holdsTimer hreachable.consistent hfirst htoken htimer
  · intro hcancelled
    have hstage := stage_runTask_of_cancelled hcancelled
    change ((spoken.play later).handle (.step s.nextTask)).stage = _
    simp only [handle, htimer]
    exact hstage
  · intro hlive hclears
    have hstore := store_handle_of_clears hlater.tracked htimer hclears hlive
    have hknown := hlater.consistent.contains_of_live (mem_of_task? htimer).1 hlive
    obtain ⟨sprite, hthere⟩ := (Store.contains_iff_get? _ _).1 hknown
    rw [hof] at hstore hthere
    refine ⟨hstore, ?_, ?_⟩
    · rw [Store.speech?, hstore, Store.get?_update, if_pos rfl, hthere]
      rfl
    · intro hundisturbed
      have hstart : ∀ speech, spoken.stage.store.speech? timer.sprite = some speech →
          speech = bubble ∨ speech = .cleared := by
        intro speech hspeech
        rw [hof, hspoken, Option.some.injEq] at hspeech
        exact Or.inl hspeech.symm
      have hshown : before.store.speech? timer.sprite = some sprite.speech := by
        rw [hof, Store.speech?, hthere]
        rfl
      rw [← hof] at hundisturbed ⊢
      rw [hshown, Option.some.injEq, Option.some.injEq]
      exact speech_of_undisturbed hreachable hm htimer hlive hundisturbed hstart _ hshown

/-- Says hello for a second. -/
def hello : Block :=
  ⟨"h", "say_for_seconds", [("message", .str "hello"), ("seconds", .int 1)], [], []⟩

/-- A dog that is about to say hello for a second, and goodbye after that. -/
def greeting : Session Float :=
  let program : Program := [⟨⟨"f", "when_flag_clicked", [], [], []⟩,
    [hello, ⟨"g", "say", [("message", .str "goodbye")], [], []⟩]⟩]
  (new Config.default 0).play
    [.control (.add .dog), .control (.setProgram 1 program), .control (.run 1), .step 0]

/-- The timer that came with hello takes down goodbye. -/
theorem timer_clears_later_bubble : greeting.Reachable ∧
    (greeting.task? 0).bind (·.act? greeting.stage) = some (.dispatch hello) ∧
    hello.timedBubble?.map (·.message) = some "hello" ∧
    greeting.nextTask = 1 ∧
    let before := (greeting.handle (.step 0)).play [.step 1, .step 0]
    (before.stage.store.speech? 1).map (·.message) = some "goodbye" ∧
      ((before.handle (.step 1)).stage.store.speech? 1).map (·.message) = some "" := by
  refine ⟨⟨Config.default, 0, _, rfl⟩, rfl, ?_, rfl, ?_⟩
  · decide +kernel
  · decide +kernel

/-- Left to itself, the timer takes hello down. -/
theorem timer_clears_bubble_in_place_greeting : ∃ bubble, hello.timedBubble? = some bubble ∧
    let before := (greeting.handle (.step 0)).play [.step 1]
    (before.stage.store.speech? 1 = some bubble ∨ before.stage.store.speech? 1 = some .cleared) ∧
      (before.handle (.step 1)).stage.store.speech? 1 = some .cleared := by
  have hreachable : greeting.Reachable := ⟨Config.default, 0, _, rfl⟩
  have hfound : (greeting.task? 0).isSome = true := by decide +kernel
  obtain ⟨t, ht⟩ := Option.isSome_iff_exists.1 hfound
  have hact : (greeting.task? 0).bind (·.act? greeting.stage) = some (.dispatch hello) := rfl
  have hsprite : (greeting.task? 0).map (·.sprite) = some 1 := by decide +kernel
  rw [ht, Option.bind_some] at hact
  rw [ht, Option.map_some, Option.some.injEq] at hsprite
  let bubble : Speech := ⟨hello.text "message", hello.number "seconds" * 1000, false⟩
  have hbubble : hello.timedBubble? = some bubble := rfl
  obtain ⟨_, _, hclears⟩ := timer_clears_bubble_in_place hreachable ht hact hbubble
  have hthere : (((greeting.handle (.step 0)).play [.step 1]).task? 1).isSome = true := by
    decide +kernel
  obtain ⟨timer, htimer⟩ := Option.isSome_iff_exists.1 hthere
  have hwork : (((greeting.handle (.step 0)).play [.step 1]).task? 1).map (·.work) =
      some (.clearSpeech (Delay.ofMillis bubble.durationMs) true) := rfl
  have hlive : (((greeting.handle (.step 0)).play [.step 1]).task? 1).map (fun timer =>
      ((greeting.handle (.step 0)).play [.step 1]).stage.registry.isCancelled timer.token) =
        some false := by decide +kernel
  rw [htimer, Option.map_some, Option.some.injEq] at hwork hlive
  have hundisturbed : (greeting.handle (.step 0)).Undisturbed t.sprite [.step 1] := by
    have hquiet : ((greeting.handle (.step 0)).task? 1).all
        (fun timer => (timer.act? (greeting.handle (.step 0)).stage).isNone) = true := by decide +kernel
    have hcontacts : (greeting.handle (.step 0)).contacts (.step 1) = [] := by decide +kernel
    refine ⟨?_, by simp [hcontacts], trivial⟩
    rintro ⟨timer, hfound, _, b, hspeaks, _⟩
    rw [hfound, Option.all_some, hspeaks] at hquiet
    cases hquiet
  have hafter := (hclears [.step 1] timer htimer).2.2 hlive ⟨_, hwork⟩
  rw [hsprite] at hafter hundisturbed
  exact ⟨bubble, hbubble, hafter.2.2 hundisturbed, hafter.2.1⟩

end Session

end SpriteStage
