import SpriteStage.Proofs.Number.Exact
import SpriteStage.Proofs.Program.Faultless
import SpriteStage.Proofs.Session.Glides
import SpriteStage.Proofs.Session.Trading

namespace SpriteStage

variable {α : Type} [Scalar α]

/-- A block that glides marks its sprite, and the chain goes on with the glide. -/
theorem Stage.execute_of_glide {b : Block} (hkind : b.kind? = some .glide) {id : Nat} {stage : Stage α}
    {sprite : Sprite α} (hsprite : stage.store.get? id = some sprite) : stage.execute id b =
      (stage.commit id fun sprite => { sprite with animation := some ⟨b.number "seconds" * 1000⟩ },
        .glide sprite.position b.target (b.number "seconds" * 1000)) := by
  have hplain : ¬ b.is .goToRandom = true := by
    rw [Block.is_iff_kind?, hkind]
    nofun
  rw [execute, drawFor, if_neg hplain]
  simp only [hsprite, Block.dispatch, hkind]

/-- Every turn of a glide finds the sprite, so what it commits is to be seen in the store. -/
theorem Glide.Course.drawn {g : Glide α} {n : Nat} {t : Task α} {s : Session α} {events : List (Event α)}
    {frames : List (Session α)} {landing : Option (Session α)} (hs : s.Reachable)
    (ht : s.task? n = some t) (hcourse : g.Course n t s events frames landing) {u : Session α}
    (hu : u ∈ frames ++ landing.toList) :
    u.stage.Drawn t.sprite (g.draw u.now) (u.handle (.step n)).stage := by
  rw [hcourse.write u hu]
  rw [← hcourse.turns] at hu
  obtain ⟨hreachable, sprite, hsprite⟩ := Session.get?_of_mem_glideTurns hs ht hu
  exact Stage.drawn_commit hreachable.tracked.wellFormed hsprite (g.id_draw u.now sprite)
    (g.speech_draw u.now) (g.program_draw u.now)

namespace Session

/-- Times that are apart by an interval are as many intervals after the first as there are before them. -/
theorem mul_interval_le {times : List Nat} {interval start : Nat}
    (hapart : times.Pairwise fun time later => time + interval ≤ later)
    (hstart : ∀ time ∈ times, start ≤ time) (i : Nat) (hi : i < times.length) : start + i * interval ≤ times[i] := by
  induction i with
  | zero =>
    have hfirst := hstart _ (List.getElem_mem hi)
    omega
  | succ i ih =>
    have hbefore := ih (Nat.lt_of_succ_lt hi)
    have hgap := List.pairwise_iff_getElem.1 hapart i (i + 1) (Nat.lt_of_succ_lt hi) hi (Nat.lt_succ_self i)
    rw [Nat.succ_mul]
    omega

/-- A chain that dispatches a block to glide is in that glide then. -/
theorem handle_of_glide {s : Session α} (h : s.Consistent) {n : Nat} {t : Task α} (ht : s.task? n = some t)
    {b : Block} (hact : t.act? s.stage = some (.dispatch b)) (hkind : b.kind? = some .glide)
    {sprite : Sprite α} (hsprite : s.stage.store.get? t.sprite = some sprite) :
    (s.handle (.step n)).stage = s.stage.commit t.sprite (fun sprite =>
        { sprite with animation := some ⟨b.number "seconds" * 1000⟩ }) ∧
      ∃ (rest : Cursor) (next : Task α), (s.handle (.step n)).task? n = some next ∧
        next.sprite = t.sprite ∧ next.token = t.token ∧
        next.work =
          (⟨rest, sprite.position, b.target, b.number "seconds" * 1000, s.now⟩ : Glide α).work := by
  obtain ⟨hstage, rest, hnext⟩ := handle_of_dispatch h ht hact
  rw [Stage.execute_of_glide hkind hsprite] at hstage hnext
  exact ⟨hstage, rest, _, hnext, t.sprite_resume .., t.token_resume .., t.work_resume ..⟩

/-- Where a glide of real numbers is while it is not over. -/
theorem draw_of_early {g : Glide ℝ} {now : Nat} (hearly : (g.fraction? now).isSome = true) :
    let elapsed : ℝ := (now - g.started : Nat)
    let duration := Number.toReal g.durationMs
    (Number.isFinite g.durationMs && Number.isPositive g.durationMs) = true ∧ elapsed < duration ∧
      g.draw now = fun sprite =>
        { sprite with position := g.origin.towards g.target (elapsed / duration) } := by
  intro elapsed duration
  have hfraction : g.fraction? now = _ := glideFraction?_eq g.durationMs (now - g.started)
  split at hfraction
  case isTrue hlasts => exact ⟨hlasts.1, hlasts.2, Glide.draw_of_some hfraction⟩
  case isFalse =>
    rw [hfraction] at hearly
    cases hearly

/-- There is no room in the duration of a glide for more frames than frame intervals. -/
theorem length_frames_le {g : Glide ℝ} {n : Nat} {t : Task ℝ} {s : Session ℝ} {events : List (Event ℝ)}
    {frames : List (Session ℝ)} {landing : Option (Session ℝ)}
    (hcourse : g.Course n t s events frames landing) (hstarted : g.started ≤ s.now)
    (hinterval : 0 < s.stage.config.frameIntervalMs) :
    frames.length ≤ ⌈Number.toReal g.durationMs / s.stage.config.frameIntervalMs⌉₊ := by
  have hapart : (frames.map (·.now)).Pairwise fun time later =>
      time + s.stage.config.frameIntervalMs ≤ later :=
    List.pairwise_map.2 (List.pairwise_append.1 hcourse.apart).1
  have hstart : ∀ time ∈ frames.map (·.now), g.started ≤ time := by
    intro time htime
    obtain ⟨u, hu, rfl⟩ := List.mem_map.1 htime
    have hle := hcourse.le_now u (List.mem_append_left _ hu)
    omega
  have hroom : ∀ m, m < frames.length →
      (m : ℝ) < Number.toReal g.durationMs / s.stage.config.frameIntervalMs := by
    intro m hm
    have hpassed := mul_interval_le hapart hstart m (by rwa [List.length_map])
    rw [List.getElem_map] at hpassed
    obtain ⟨_, hearly, _⟩ := draw_of_early (hcourse.early _ (List.getElem_mem hm))
    have hcast : ((m * s.stage.config.frameIntervalMs : Nat) : ℝ) ≤ (frames[m].now - g.started : Nat) :=
      Nat.cast_le.2 (by omega)
    rw [lt_div_iff₀ (Nat.cast_pos.2 hinterval), ← Nat.cast_mul]
    exact lt_of_le_of_lt hcast hearly
  cases hlength : frames.length with
  | zero => exact Nat.zero_le _
  | succ m => exact Nat.lt_ceil.2 (hroom m (by omega))

/-- A glide of real numbers that is over has lasted its duration, if that is a positive number. -/
theorem le_of_atEnd {g : Glide ℝ} {now : Nat} (hover : g.fraction? now = none)
    (hlasts : (Number.isFinite g.durationMs && Number.isPositive g.durationMs) = true) :
    Number.toReal g.durationMs ≤ (now - g.started : Nat) := by
  by_contra hearly
  have hfraction : g.fraction? now = _ := glideFraction?_eq g.durationMs (now - g.started)
  rw [hover, if_pos ⟨hlasts, not_le.1 hearly⟩] at hfraction
  cases hfraction

/-- In exact arithmetic, while sleeps never end early, a glide that is neither cancelled nor loses its
    sprite draws frames on the segment to its target, at times that rise and before its duration is over,
    and no more of them than frame intervals have room in it. Then it puts the sprite on the target and
    takes the mark of the glide off it. A glide whose duration is not a positive number draws no frame.
    Nothing else of the sprite is written, whatever else goes on. Until it has landed the chain is in the
    glide, with a frame at each of its turns, and does nothing else, unless it is cancelled. A chain that
    was cancelled or has lost its sprite writes nothing and does nothing more. -/
theorem glide_follows_its_segment {s : Session ℝ} (hs : s.Reachable) {n : Nat} {t : Task ℝ}
    (ht : s.task? n = some t) {b : Block} (hact : t.act? s.stage = some (.dispatch b))
    (hkind : b.kind? = some .glide) {sprite : Sprite ℝ}
    (hsprite : s.stage.store.get? t.sprite = some sprite)
    {events : List (Event ℝ)} (hontime : (s.handle (.step n)).OnTime n events)
    (hquiet : (s.handle (.step n)).acts n events = []) :
    let durationMs := b.number "seconds" * 1000
    let duration := Number.toReal durationMs
    let lasts := Number.isFinite durationMs && Number.isPositive durationMs
    let origin := sprite.position
    let target : Position ℝ := b.target
    let begun := s.handle (.step n)
    begun.stage = s.stage.commit t.sprite (fun sprite => { sprite with animation := some ⟨durationMs⟩ }) ∧
    (∃ (frames : List (Session ℝ)) (landing : Option (Session ℝ)),
      begun.glideTurns n events = frames ++ landing.toList ∧
      (∀ u ∈ frames, s.now ≤ u.now ∧
        let elapsed : ℝ := (u.now - s.now : Nat)
        let frame (sprite : Sprite ℝ) : Sprite ℝ :=
          { sprite with position := ⟨origin.x + (target.x - origin.x) * (elapsed / duration),
                                     origin.y + (target.y - origin.y) * (elapsed / duration)⟩ }
        elapsed < duration ∧ (u.handle (.step n)).stage = u.stage.commit t.sprite frame ∧
          u.stage.Drawn t.sprite frame (u.handle (.step n)).stage) ∧
      frames.Pairwise (fun u later => u.now < later.now) ∧
      frames.length ≤ ⌈duration / s.stage.config.frameIntervalMs⌉₊ ∧
      (lasts = false → frames = []) ∧
      (∀ u ∈ landing,
        let last (sprite : Sprite ℝ) : Sprite ℝ := { sprite with animation := none, position := target }
        (lasts = true → duration ≤ (u.now - s.now : Nat)) ∧
          (u.handle (.step n)).stage = u.stage.commit t.sprite last ∧
          u.stage.Drawn t.sprite last (u.handle (.step n)).stage) ∧
      (landing = none → (begun.play events).act? n (.step n) = none ∧
        ((begun.play events).stage.registry.isCancelled t.token = true ∨
          frames.length = events.countP (·.isStepOf n) ∧
            ∃ (now : Task ℝ) (rest : Cursor), (begun.play events).task? n = some now ∧
              now.sprite = t.sprite ∧ now.work = .chain ⟨rest, .glide origin target durationMs s.now⟩))) ∧
    ∀ before later : List (Event ℝ), let u := begun.play before
      u.stage.registry.isCancelled t.token = true ∨ u.stage.store.contains t.sprite = false →
        u.acts n later = [] ∧ ((u.play later).handle (.step n)).stage = (u.play later).stage := by
  intro durationMs duration lasts origin target begun
  obtain ⟨hstage, rest, next, hnext, hsame, htoken, hwork⟩ :=
    handle_of_glide hs.consistent ht hact hkind hsprite
  have hbegun : begun.Reachable := hs.play [.step n]
  have hconfig : begun.stage.config = s.stage.config := (hs.consistent.precedes_handle (.step n)).config
  refine ⟨hstage, ?_, ?_⟩
  · obtain ⟨frames, landing, hcourse⟩ := course_of_glide hbegun.consistent hnext hwork
      hbegun.frameIntervalMs_pos hontime hquiet
    have hnow : s.now ≤ begun.now := now_le_handle _ s
    have hframe : ∀ u ∈ frames, u ∈ frames ++ landing.toList := fun u hu => List.mem_append_left _ hu
    have hlast : ∀ u ∈ landing, u ∈ frames ++ landing.toList :=
      fun u hu => List.mem_append_right _ (Option.mem_toList.2 hu)
    refine ⟨frames, landing, hcourse.turns, ?_, ?_, ?_, ?_, ?_, ?_⟩
    · intro u hu
      obtain ⟨_, hearly, hdraw⟩ := draw_of_early (hcourse.early u hu)
      have hwrite := hcourse.write u (hframe u hu)
      have hdrawn := hcourse.drawn hbegun hnext (hframe u hu)
      rw [hdraw, hsame] at hwrite hdrawn
      have hle := hcourse.le_now u (hframe u hu)
      exact ⟨by omega, hearly, hwrite, hdrawn⟩
    · refine (List.pairwise_append.1 hcourse.apart).1.imp ?_
      intro u later hapart
      have hinterval := hbegun.frameIntervalMs_pos
      omega
    · have hlength := length_frames_le hcourse hnow hbegun.frameIntervalMs_pos
      rwa [hconfig] at hlength
    · intro hdegenerate
      refine List.eq_nil_iff_forall_not_mem.2 fun u hu => ?_
      obtain ⟨hlasts, _⟩ := draw_of_early (hcourse.early u hu)
      exact absurd (hdegenerate.symm.trans hlasts) nofun
    · intro u hu
      have hwrite := hcourse.write u (hlast u hu)
      have hdrawn := hcourse.drawn hbegun hnext (hlast u hu)
      rw [Glide.draw_of_none (hcourse.atEnd u hu), hsame] at hwrite hdrawn
      have hlasted := le_of_atEnd (hcourse.atEnd u hu)
      exact ⟨hlasted, hwrite, hdrawn⟩
    · intro hnone
      refine ⟨hcourse.act?_of_underWay hbegun hnext hnone, ?_⟩
      rw [← htoken]
      refine (hcourse.underWay hnone).imp_right ?_
      rintro ⟨hlength, now, hstill, hsprite, hglides⟩
      exact ⟨hlength, now, rest, hstill, hsprite.trans hsame, hglides⟩
  · intro before later u hstopped
    rw [← htoken, ← hsame] at hstopped
    exact stopped_later hbegun hnext hstopped later

/-- A glide of one second. -/
def roam : Block :=
  ⟨"g", "glide", [("seconds", .int 1), ("x_position", .int 90), ("y_position", .int 40)], [], []⟩

/-- A dog that is about to begin it. -/
noncomputable def roaming : Session ℝ :=
  (new Config.default 0).play [.control (.add .dog),
    .control (.setProgram 1 [⟨⟨"f", "when_flag_clicked", [], [], []⟩, [roam]⟩]), .control (.run 1),
    .step 0, .pass 10]

/-- The dog is carried away by hand in the course of its glide. The frame that is drawn next puts it
    back on its way, and the end of the glide puts it on the target. -/
theorem glide_follows_its_segment_carried :
    let carried (ms : Nat) := (roaming.handle (.step 0)).play [.pass ms, .control (.moveTo 1 .origin)]
    roaming.Reachable ∧
      (∃ old speech program, (carried 250).stage.store.get? 1 = some old ∧
        ((carried 250).handle (.step 0)).stage.store.get? 1 =
          some { old with position := ⟨45, 32.5⟩, speech := speech, program := program }) ∧
      ∃ old speech program, (carried 1000).stage.store.get? 1 = some old ∧
        ((carried 1000).handle (.step 0)).stage.store.get? 1 = some { old with
          animation := none, position := ⟨90, 40⟩, speech := speech, program := program } := by
  intro carried
  have hreachable : roaming.Reachable := ⟨Config.default, 0, _, rfl⟩
  obtain ⟨t, ht, hact, hid⟩ : ∃ t, roaming.task? 0 = some t ∧
      t.act? roaming.stage = some (.dispatch roam) ∧ t.sprite = 1 := ⟨_, rfl, rfl, rfl⟩
  obtain ⟨sprite, hsprite, hposition⟩ : ∃ sprite, roaming.stage.store.get? 1 = some sprite ∧
      sprite.position = ⟨Number.toReal 30, Number.toReal 30⟩ := ⟨_, rfl, rfl⟩
  rw [← hid] at hsprite
  let events (ms : Nat) : List (Event ℝ) := [.pass ms, .control (.moveTo 1 .origin), .step 0]
  have hontime (ms : Nat) : (roaming.handle (.step 0)).OnTime 0 (events ms) := by
    refine ⟨nofun, nofun, ?_, trivial⟩
    intro _ next hnext
    have hdue : ((carried ms).task? 0).map (carried ms).due = some 10 := rfl
    change (carried ms).task? 0 = some next at hnext
    rw [hnext, Option.map_some, Option.some.injEq] at hdue
    exact le_of_eq_of_le hdue (Nat.le_add_right 10 ms)
  have hcourse (ms : Nat) := (glide_follows_its_segment hreachable ht hact rfl hsprite (hontime ms) rfl).2.1
  have hturns (ms : Nat) : (roaming.handle (.step 0)).glideTurns 0 (events ms) = [carried ms] := rfl
  have hsecond : Number.toReal (roam.number "seconds" * 1000) = 1000 :=
    (Number.toReal_of_shifted (n := 1000) (k := 43) rfl).trans (by norm_num)
  have hstart : sprite.position = ⟨30, 30⟩ := by
    rw [hposition, Number.toReal_of_shifted (n := 30) (k := 48) rfl]
    norm_num
  have htarget : (roam.target : Position ℝ) = ⟨90, 40⟩ := by
    have hx : Number.toReal (roam.number "x_position") = 90 :=
      (Number.toReal_of_shifted (n := 90) (k := 46) rfl).trans (by norm_num)
    have hy : Number.toReal (roam.number "y_position") = 40 :=
      (Number.toReal_of_shifted (n := 40) (k := 47) rfl).trans (by norm_num)
    rw [← hx, ← hy]
    rfl
  rw [hid, hsecond, hstart, htarget] at hcourse
  refine ⟨hreachable, ?_, ?_⟩
  · obtain ⟨frames, landing, hall, hframes, -, -, -, hlanding, -⟩ := hcourse 250
    rw [hturns, eq_comm, List.append_eq_singleton_iff] at hall
    rcases hall with ⟨-, hlands⟩ | ⟨rfl, -⟩
    · have hover := (hlanding (carried 250) (Option.toList_eq_singleton_iff.1 hlands)).1 (by decide +kernel)
      rw [show (carried 250).now - roaming.now = 250 from rfl] at hover
      norm_num at hover
    · obtain ⟨-, -, -, hdrawn⟩ := hframes (carried 250) List.mem_cons_self
      obtain ⟨old, speech, program, hold, hnew⟩ := hdrawn.here
      rw [show (carried 250).now - roaming.now = 250 from rfl] at hnew
      refine ⟨old, speech, program, hold, hnew.trans ?_⟩
      norm_num
  · obtain ⟨frames, landing, hall, hframes, -, -, -, hlanding, -⟩ := hcourse 1000
    rw [hturns, eq_comm, List.append_eq_singleton_iff] at hall
    rcases hall with ⟨-, hlands⟩ | ⟨rfl, -⟩
    · obtain ⟨-, -, hdrawn⟩ := hlanding (carried 1000) (Option.toList_eq_singleton_iff.1 hlands)
      exact hdrawn.here
    · obtain ⟨-, hearly, -⟩ := hframes (carried 1000) List.mem_cons_self
      rw [show (carried 1000).now - roaming.now = 1000 from rfl] at hearly
      norm_num at hearly

end Session

end SpriteStage
