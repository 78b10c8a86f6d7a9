import SpriteStage.Proofs.Session.ExactGlides

namespace SpriteStage

variable {α : Type} [Scalar α]

/-- How long a chain sleeps behind a block, given the pause before the next one. -/
def Block.pause (before : Nat) (b : Block) : Nat :=
  match b.kind? with
  | some .wait => (Delay.ofMillis (b.waitSeconds * 1000)).millis
  | some .glide | some .repeatAbove => 0
  | _ => before

/-- How long a chain pauses behind a block depends on the block and not on the stage. -/
theorem Block.pause_after (b : Block) (sprite : Sprite α) (context : Context α) (origin : Position α)
    (before : Nat) : ((b.dispatch sprite context).after origin).pause before = b.pause before := by
  unfold dispatch pause
  dsimp only
  cases hkind : b.kind? with
  | none => rfl
  | some kind =>
    cases kind with
    | pointTowards =>
      dsimp only
      split <;> rfl
    | _ => rfl

/-- A block that does not glide leaves its chain before the next block. -/
theorem Block.phase_after {b : Block} (hglide : b.kind? ≠ some .glide) (sprite : Sprite α)
    (context : Context α) (origin : Position α) (now : Nat) :
    ((b.dispatch sprite context).after origin).phase now = .dispatch := by
  unfold dispatch
  dsimp only
  cases hkind : b.kind? with
  | none => rfl
  | some kind =>
    cases kind with
    | glide => exact absurd hkind hglide
    | pointTowards =>
      dsimp only
      split <;> rfl
    | _ => rfl

/-- How a chain goes on after a block is what the effect of the block asks for. -/
theorem Stage.execute_after {stage : Stage α} {id : Nat} (hknown : stage.store.contains id = true)
    (b : Block) : ∃ sprite context, (stage.execute id b).2 =
      (b.dispatch sprite context).after sprite.position := by
  obtain ⟨sprite, hsprite⟩ := (Store.contains_iff_get? _ _).1 hknown
  obtain ⟨point, random, hdraw⟩ := stage.drawFor_eq b
  rw [execute_of_get? hsprite (hdraw stage.hero)]
  exact ⟨_, _, rfl⟩

/-- A delay is over once the whole milliseconds until its end have passed. -/
theorem Delay.nanos_le_millis (d : Delay) : d.nanos ≤ d.millis * 1000000 := by
  have hdiv := Nat.div_add_mod (d.nanos + 999999) 1000000
  have hmod := Nat.mod_lt (d.nanos + 999999) (show 0 < 1000000 by decide)
  unfold Delay.millis
  omega

namespace Session

/-- A block leaves its chain waiting for the next one, unless it glides. -/
theorem task?_of_dispatch {s : Session α} (h : s.Consistent) {n : Nat} {t : Task α}
    (ht : s.task? n = some t) {b : Block} (hact : t.act? s.stage = some (.dispatch b))
    (hglide : b.kind? ≠ some .glide) :
    ∃ rest : Cursor, (s.handle (.step n)).task? n = some (t.resume (.chain ⟨rest, .dispatch⟩)
      (b.pause (ChainRun.pauseBefore s.stage rest)) s.now s.nextStamp) := by
  obtain ⟨_, hknown, _⟩ := Task.dispatch_of_act? hact
  obtain ⟨sprite, context, hafter⟩ := s.stage.execute_after hknown b
  obtain ⟨_, rest, hnext⟩ := handle_of_dispatch h ht hact
  rw [hafter, Block.phase_after hglide, Block.pause_after] at hnext
  exact ⟨rest, hnext⟩

/-- A chain that waits dispatches its next block once it is due, and there is one. -/
theorem Waits.due_of_act {s : Session α} {n : Nat} {t : Task α} {cursor : Cursor} {b : Block}
    (hwork : t.work = .chain ⟨cursor, .dispatch⟩) (hwaits : s.Waits n t) (hontime : s.OnTime n [.step n])
    (hact : s.act? n (.step n) = some (.dispatch b)) :
    t.wake ≤ s.now ∧ ∀ stage : Stage α, ChainRun.pauseBefore stage cursor = stage.config.stepDelayMs := by
  simp only [act?, if_true] at hact
  obtain ⟨now, hnow, hdispatch⟩ := Option.bind_eq_some_iff.1 hact
  obtain ⟨hlive, _, place, rest, hplace, hturn⟩ := Task.dispatch_of_act? hdispatch
  rcases hwaits.now now hnow with rfl | ⟨_, _, hending⟩
  · rw [hwork] at hplace
    cases hplace
    refine ⟨due_of_live hlive ▸ hontime.1 rfl now hnow, fun stage => if_neg ?_⟩
    intro hempty
    rw [Cursor.advance, List.isEmpty_iff.1 hempty] at hturn
    cases hturn
  · rw [hplace] at hending
    cases hending

section Dispatches

variable {s : Session α} (hs : s.Reachable) {n : Nat} {t : Task α} (ht : s.task? n = some t)
  {b next : Block} (hact : t.act? s.stage = some (.dispatch b)) {events : List (Event α)}
  (hontime : (s.handle (.step n)).OnTime n (events ++ [.step n]))
  (hquiet : (s.handle (.step n)).acts n events = [])
  (hnext : ((s.handle (.step n)).play events).act? n (.step n) = some (.dispatch next))

include hs ht hact hontime hquiet hnext

/-- From one dispatch to the next a chain keeps to the pause behind the first, unless that is a glide. -/
theorem pause_le_of_dispatch (hglide : b.kind? ≠ some .glide) :
    s.now + b.pause s.stage.config.stepDelayMs ≤ ((s.handle (.step n)).play events).now := by
  have h := hs.consistent
  obtain ⟨rest, hbegun⟩ := task?_of_dispatch h ht hact hglide
  obtain ⟨hlater, _⟩ := ((h.handle _).waits hbegun).play (h.handle _) (t.work_resume ..) hquiet
  obtain ⟨hwake, hfollowed⟩ := hlater.due_of_act (t.work_resume ..) (onTime_append.1 hontime).2 hnext
  have hpause := Task.le_wake_resume (.chain ⟨rest, .dispatch⟩)
    (b.pause (ChainRun.pauseBefore s.stage rest)) s.now s.nextStamp t
  have hnow := Nat.le_trans (now_le_handle (.step n) s) (now_le_play events _)
  rw [hfollowed] at hpause hwake
  omega

/-- After a glide a chain keeps to the step delay, counted from a time at which the glide was over. -/
theorem glide_le_of_dispatch (hkind : b.kind? = some .glide) :
    ∃ lasted, (glideFraction? (b.number "seconds" * 1000) lasted : Option α) = none ∧
      s.now + lasted + s.stage.config.stepDelayMs ≤ ((s.handle (.step n)).play events).now := by
  obtain ⟨_, hknown, _⟩ := Task.dispatch_of_act? hact
  obtain ⟨sprite, hsprite⟩ := (Store.contains_iff_get? _ _).1 hknown
  obtain ⟨_, rest, gliding, hgliding, _, _, hwork⟩ := handle_of_glide hs.consistent ht hact hkind hsprite
  have hbegun : (s.handle (.step n)).Reachable := hs.play [.step n]
  obtain ⟨hbefore, hlast⟩ := onTime_append.1 hontime
  obtain ⟨frames, landing, hcourse⟩ := course_of_glide hbegun.consistent hgliding hwork
    hbegun.frameIntervalMs_pos hbefore hquiet
  cases landing with
  | none =>
    rw [hcourse.act?_of_underWay hbegun hgliding rfl] at hnext
    cases hnext
  | some u =>
    have hturn : u ∈ (s.handle (.step n)).glideTurns n events := by
      rw [hcourse.turns]
      exact List.mem_append_right _ List.mem_cons_self
    obtain ⟨waiting, hwaiting, hpause, hwaits⟩ := hcourse.landed u rfl
    obtain ⟨hwake, hfollowed⟩ := hwaits.due_of_act hwaiting hlast hnext
    obtain ⟨⟨before, after, rfl, rfl⟩, _⟩ := of_mem_glideTurns hturn
    have hconfig := ((hs.consistent.precedes_handle (.step n)).trans
      (hbegun.consistent.precedes_play before)).config
    have hstarted := Nat.le_trans (now_le_handle (.step n) s) (now_le_play before _)
    have hended := now_le_play (.step n :: after) ((s.handle (.step n)).play before)
    rw [hfollowed, hconfig] at hpause
    rw [play_append] at hwake ⊢
    exact ⟨_, hcourse.atEnd _ rfl, by dsimp only; omega⟩

/-- In exact arithmetic that is no earlier than the step delay after the end of the duration. -/
theorem duration_le_of_dispatch (hkind : b.kind? = some .glide) (hexact : Scalar.IsExact α)
    (hlasts : (Number.isFinite (b.number "seconds" * 1000) &&
      Number.isPositive (b.number "seconds" * 1000)) = true) :
    (s.now : ℝ) + Number.toReal (b.number "seconds" * 1000) + s.stage.config.stepDelayMs ≤
      ((s.handle (.step n)).play events).now := by
  obtain ⟨lasted, hover, hle⟩ := glide_le_of_dispatch hs ht hact hontime hquiet hnext hkind
  have hnot := (glideFraction?_eq_none_iff _ lasted).1 hover hlasts
  have hduration : Number.toReal (b.number "seconds" * 1000) ≤ lasted := by
    by_contra hearly
    rw [(hexact lasted _ hlasts).2 (not_le.1 hearly)] at hnot
    cases hnot
  have hcast : ((s.now + lasted + s.stage.config.stepDelayMs : Nat) : ℝ) ≤
      (((s.handle (.step n)).play events).now : ℝ) := Nat.cast_le.2 hle
  push_cast at hcast
  linarith

end Dispatches

/-- A step of a chain between two of its acts leaves the stage alone or draws a glide. -/
theorem writes_between_acts {s : Session α} (hs : s.Reachable) {n : Nat} {t : Task α}
    (ht : s.task? n = some t) {b : Block} (hact : t.act? s.stage = some (.dispatch b))
    {before : List (Event α)}
    (hontime : (s.handle (.step n)).OnTime n before) (hquiet : (s.handle (.step n)).acts n before = [])
    (hstill : ((s.handle (.step n)).play before).act? n (.step n) = none) :
    let u := (s.handle (.step n)).play before
    (u.handle (.step n)).stage = u.stage ∨
      b.kind? = some .glide ∧ ∃ g : Glide α,
        (s.stage.store.get? t.sprite).map (·.position) = some g.origin ∧ g.target = b.target ∧
        g.durationMs = b.number "seconds" * 1000 ∧ g.started = s.now ∧
        (u.handle (.step n)).stage = u.stage.commit t.sprite (g.draw u.now) := by
  intro u
  obtain ⟨_, hknown, _⟩ := Task.dispatch_of_act? hact
  obtain ⟨sprite, hsprite⟩ := (Store.contains_iff_get? _ _).1 hknown
  have hbegun : (s.handle (.step n)).Reachable := hs.play [.step n]
  have hu : u.Consistent := (hbegun.play before).consistent
  by_cases hkind : b.kind? = some .glide
  · obtain ⟨_, rest, gliding, hgliding, hsame, _, hwork⟩ :=
      handle_of_glide hs.consistent ht hact hkind hsprite
    obtain ⟨frames, landing, hcourse⟩ := course_of_glide hbegun.consistent hgliding hwork
      hbegun.frameIntervalMs_pos hontime hquiet
    cases landing with
    | none =>
      rcases hcourse.underWay rfl with hcancelled | ⟨_, now, hnow, hhere, hnext⟩
      · exact Or.inl (stopped_later hbegun hgliding (Or.inl hcancelled) []).2
      · cases hlive : u.stage.registry.isCancelled now.token with
        | true =>
          rw [handle_step_of_task? hnow]
          exact Or.inl (stage_runTask_of_cancelled hlive)
        | false =>
          have hdrawn := (handle_of_gliding hu hnow hnext hlive).1
          rw [hhere, hsame] at hdrawn
          exact Or.inr ⟨hkind, _, by rw [hsprite]; rfl, rfl, rfl, rfl, hdrawn⟩
    | some landed =>
      obtain ⟨waiting, hwaiting, _, hwaits⟩ := hcourse.landed landed rfl
      exact Or.inl ((hwaits.handle hu hwaiting hstill).2.2 rfl)
  · obtain ⟨rest, hwaiting⟩ := task?_of_dispatch hs.consistent ht hact hkind
    have hwaits := hbegun.consistent.waits hwaiting
    obtain ⟨hlater, _⟩ := hwaits.play hbegun.consistent (t.work_resume ..) hquiet
    exact Or.inl ((hlater.handle hu (t.work_resume ..) hstill).2.2 rfl)

/-- A chain never runs ahead of its delays. While timers never fire early, it dispatches the next block
    after a wait no earlier than the delay later, and after any other block but a repeat no earlier than the
    step delay later. After a glide that lasts it is no earlier than the step delay after a time at which
    what has passed is not less than the duration, as the scalars of the stage tell it; where they tell it
    exactly, the duration and the step delay have passed. After a repeat that was on time it may go on at
    once. In between it writes to the stage for nothing but the frames and the end of a glide. -/
theorem chain_keeps_its_delays {s : Session α} (hs : s.Reachable) {n : Nat} {t : Task α}
    (ht : s.task? n = some t) {b next : Block} (hact : t.act? s.stage = some (.dispatch b))
    {events : List (Event α)} (hontime : (s.handle (.step n)).OnTime n (events ++ [.step n]))
    (hquiet : (s.handle (.step n)).acts n events = [])
    (hnext : ((s.handle (.step n)).play events).act? n (.step n) = some (.dispatch next)) :
    let begun := s.handle (.step n)
    let later := begun.play events
    let stepDelay := s.stage.config.stepDelayMs
    (b.kind? = some .wait → s.now * 1000000 + (Delay.ofMillis (b.waitSeconds * 1000)).nanos ≤
      later.now * 1000000) ∧
    (b.kind? = some .glide →
      let durationMs := b.number "seconds" * 1000
      s.now + stepDelay ≤ later.now ∧
        ((Number.isFinite durationMs && Number.isPositive durationMs) = true →
          (∃ lasted : Nat,
            Scalar.less (Scalar.ofMillis lasted / Scalar.ofFloat durationMs : α) (Scalar.ofFloat 1) = false ∧
              s.now + lasted + stepDelay ≤ later.now) ∧
          (Scalar.IsExact α → (s.now : ℝ) + Number.toReal durationMs + stepDelay ≤ later.now))) ∧
    (b.kind? = some .repeatAbove → s.due t ≤ s.now → begun.OnTime n [.step n]) ∧
    (b.kind? ≠ some .wait → b.kind? ≠ some .glide → b.kind? ≠ some .repeatAbove →
      s.now + stepDelay ≤ later.now) ∧
    ∀ before after, events = before ++ .step n :: after → let u := begun.play before
      (u.handle (.step n)).stage = u.stage ∨
        b.kind? = some .glide ∧ ∃ g : Glide α,
          (s.stage.store.get? t.sprite).map (·.position) = some g.origin ∧ g.target = b.target ∧
          g.durationMs = b.number "seconds" * 1000 ∧ g.started = s.now ∧
          (u.handle (.step n)).stage = u.stage.commit t.sprite (g.draw u.now) := by
  intro begun later stepDelay
  have hpause (hglide : b.kind? ≠ some .glide) : s.now + b.pause stepDelay ≤ later.now :=
    pause_le_of_dispatch hs ht hact hontime hquiet hnext hglide
  refine ⟨?_, ?_, ?_, ?_, ?_⟩
  · intro hwait
    have hlater := hpause (by rw [hwait]; nofun)
    have hnanos := (Delay.ofMillis (b.waitSeconds * 1000)).nanos_le_millis
    rw [Block.pause, hwait] at hlater
    dsimp only at hlater
    omega
  · intro hglide durationMs
    obtain ⟨lasted, hover, hle⟩ := glide_le_of_dispatch hs ht hact hontime hquiet hnext hglide
    have hlater : s.now + lasted + stepDelay ≤ later.now := hle
    refine ⟨by omega, fun hlasts => ⟨⟨lasted, ?_, hlater⟩, fun hexact => ?_⟩⟩
    · exact (glideFraction?_eq_none_iff durationMs lasted).1 hover hlasts
    · exact duration_le_of_dispatch hs ht hact hontime hquiet hnext hglide hexact hlasts
  · intro hrepeat hdue
    obtain ⟨hlive, _⟩ := Task.dispatch_of_act? hact
    obtain ⟨rest, hbegun⟩ := task?_of_dispatch hs.consistent ht hact (by rw [hrepeat]; nofun)
    refine ⟨?_, trivial⟩
    intro _ after hafter
    rw [hbegun, Option.some.injEq] at hafter
    have hwake : after.wake = t.wake := by
      rw [← hafter, Block.pause, hrepeat]
      rfl
    rw [due_of_live hlive, ← hwake] at hdue
    exact due_le (Nat.le_trans hdue (now_le_handle _ s))
  · intro hwait hglide hrepeat
    have hlater := hpause hglide
    rw [Block.pause] at hlater
    split at hlater
    case h_1 hkind => exact absurd hkind hwait
    case h_2 hkind => exact absurd hkind hglide
    case h_3 hkind => exact absurd hkind hrepeat
    case h_4 => exact hlater
  · rintro before after rfl
    rw [acts_append, List.append_eq_nil_iff, acts_cons_eq_nil] at hquiet
    rw [List.append_assoc, onTime_append] at hontime
    exact writes_between_acts hs ht hact hontime.1 hquiet.1 hquiet.2.1

/-- A glide whose duration is a little longer than a whole number of milliseconds once it is a double. -/
def hurry : Block :=
  ⟨"g", "glide", [("seconds", .double 32.112), ("x_position", .int 90), ("y_position", .int 40)], [], []⟩

/-- A dog that is about to begin it. -/
def hurrying : Session Float :=
  let arrive : Block := ⟨"s", "say", [("message", .str "there")], [], []⟩
  (new Config.default 0).play [.control (.add .dog),
    .control (.setProgram 1 [⟨⟨"f", "when_flag_clicked", [], [], []⟩, [hurry, arrive]⟩]), .control (.run 1),
    .step 0, .pass 10]

/-- The glide is drawn at once and as soon as the whole milliseconds of its duration have passed. -/
def trip : List (Event Float) := [.step 0, .pass 32112, .step 0, .pass 10]

theorem reachable_hurrying : hurrying.Reachable := ⟨Config.default, 0, _, rfl⟩

/-- At the end of the trip the dog goes on. -/
theorem dispatch_after_trip : ∃ t next, hurrying.task? 0 = some t ∧
    t.act? hurrying.stage = some (.dispatch hurry) ∧
    (hurrying.handle (.step 0)).OnTime 0 (trip ++ [.step 0]) ∧
    (hurrying.handle (.step 0)).acts 0 trip = [] ∧
    ((hurrying.handle (.step 0)).play trip).act? 0 (.step 0) = some (.dispatch next) := by
  obtain ⟨t, ht, hact⟩ : ∃ t, hurrying.task? 0 = some t ∧ t.act? hurrying.stage = some (.dispatch hurry) :=
    ⟨_, rfl, rfl⟩
  have hontime : (hurrying.handle (.step 0)).OnTime 0 (trip ++ [.step 0]) := by decide +kernel
  have hquiet : ((hurrying.handle (.step 0)).acts 0 trip).isEmpty = true := by decide +kernel
  have hgoes :
      ((((hurrying.handle (.step 0)).play trip).act? 0 (.step 0)).bind Act.block?).isSome = true := by
    decide +kernel
  obtain ⟨next, hblock⟩ := Option.isSome_iff_exists.1 hgoes
  obtain ⟨act, hnext, hdispatch⟩ := Option.bind_eq_some_iff.1 hblock
  cases act with
  | finish => cases hdispatch
  | dispatch => exact ⟨t, _, ht, hact, hontime, List.isEmpty_iff.1 hquiet, hnext⟩

/-- In doubles the chain may be ahead of the duration of a glide by what rounding makes of the time that
    has passed. -/
theorem chain_ahead_of_glide : ∃ (t : Task Float) (next : Block),
    let durationMs := hurry.number "seconds" * 1000
    let begun := hurrying.handle (.step 0)
    hurrying.Reachable ∧ hurrying.task? 0 = some t ∧ t.act? hurrying.stage = some (.dispatch hurry) ∧
      hurry.kind? = some .glide ∧ (Number.isFinite durationMs && Number.isPositive durationMs) = true ∧
      begun.OnTime 0 (trip ++ [.step 0]) ∧ begun.acts 0 trip = [] ∧
      (begun.play trip).act? 0 (.step 0) = some (.dispatch next) ∧
      ((begun.play trip).now : ℝ) <
        hurrying.now + Number.toReal durationMs + hurrying.stage.config.stepDelayMs := by
  obtain ⟨t, next, ht, hact, hontime, hquiet, hnext⟩ := dispatch_after_trip
  refine ⟨t, next, reachable_hurrying, ht, hact, rfl, by decide +kernel, hontime, hquiet, hnext, ?_⟩
  have hlater : ((hurrying.handle (.step 0)).play trip).now = 32132 := by decide +kernel
  have hnow : hurrying.now = 10 := rfl
  have hdelay : hurrying.stage.config.stepDelayMs = 10 := rfl
  have hvalue : Number.value (hurry.number "seconds" * 1000) = .finite ⟨false, 8826879347785729, -38⟩ := by
    decide +kernel
  have hrat : Number.Binary.toRat ⟨false, 8826879347785729, -38⟩ = 32112 + 1 / 2 ^ 38 := by
    norm_num [Number.Binary.toRat]
  rw [hlater, hnow, hdelay, Number.toReal, hvalue]
  dsimp only
  rw [hrat]
  norm_num

/-- The dog keeps to the duration as doubles tell it. -/
theorem chain_keeps_its_delays_hurrying : ∃ lasted : Nat,
    Scalar.less (Scalar.ofMillis lasted / Scalar.ofFloat (hurry.number "seconds" * 1000) : Float)
        (Scalar.ofFloat 1) = false ∧
      hurrying.now + lasted + hurrying.stage.config.stepDelayMs ≤
        ((hurrying.handle (.step 0)).play trip).now := by
  obtain ⟨t, next, ht, hact, hontime, hquiet, hnext⟩ := dispatch_after_trip
  obtain ⟨_, hglide, _⟩ := chain_keeps_its_delays reachable_hurrying ht hact hontime hquiet hnext
  exact ((hglide rfl).2 (by decide +kernel)).1

end Session

end SpriteStage
