import SpriteStage.Proofs.Session.Precedes

namespace SpriteStage

variable {α : Type} [Scalar α]

/-- A control operation of a session puts new chains on a sprite. -/
def Session.Starts (s : Session α) (control : Control α) (id : Nat) : Prop :=
  ∃ t ∈ (s.perform control).tasks, s.nextTask ≤ t.id ∧ t.sprite = id

namespace Control

/-- The control operation takes the place of the chains of a sprite, or undoes or removes them. -/
def Stops (control : Control α) (s : Session α) (id : Nat) : Prop :=
  match control with
  | .run _ | .runAll => s.Starts control id
  | .undo => ∃ entry rest, s.stage.undo.pop? = some (entry, rest) ∧ entry.id = id
  | .delete other => other = id
  | .reset => True
  | _ => False

omit [Scalar α] in
/-- The control operation removes all work of a sprite, its speech timers too. -/
def Clears (control : Control α) (id : Nat) : Prop :=
  match control with
  | .delete other => other = id
  | .reset => True
  | _ => False

omit [Scalar α] in
/-- The controls that cancel all work on a sprite are the reset and its deletion. -/
theorem exists_clears_iff {events : List (Event α)} {id : Nat} :
    (∃ control, .control control ∈ events ∧ Clears control id) ↔
      .control .reset ∈ events ∨ .control (.delete id) ∈ events := by
  constructor
  · rintro ⟨control, hcontrol, hclears⟩
    cases control with
    | delete other => exact Or.inr (hclears ▸ hcontrol)
    | reset => exact Or.inl hcontrol
    | _ => exact hclears.elim
  · rintro (hreset | hdelete)
    · exact ⟨_, hreset, trivial⟩
    · exact ⟨_, hdelete, rfl⟩

end Control

namespace Session

omit [Scalar α] in
/-- Halting a sprite cancels its chains. -/
theorem isCancelled_halt {s : Session α} {t : Task α} (ht : t.Registered s.stage.registry)
    (hchain : t.isChain = true) : (s.halt t.sprite).stage.registry.isCancelled t.token = true := by
  change (s.stage.registry.cancelChains t.sprite).isCancelled t.token = true
  rw [← ht.sprite]
  apply TaskRegistry.isCancelled_cancelChains_self ht.serial_lt
  rw [ht.sprite]
  exact ht.not_speech hchain

/-- Starting chains takes no token back. -/
private theorem grows_startChains (id : Nat) (chains : List Chain) (s : Session α) :
    s.stage.registry.Grows (chains.foldl (startChain id) s).stage.registry := by
  induction chains generalizing s with
  | nil => exact .refl _
  | cons chain rest ih =>
    have hfirst := TaskRegistry.Grows.startChain s.stage.registry id
    rw [← registry_startChain id s chain] at hfirst
    exact hfirst.trans (ih (s.startChain id chain))

/-- The tasks that come in when chains are started are tasks of that sprite. -/
private theorem sprite_of_startChains (id : Nat) (chains : List Chain) (s : Session α) {t : Task α}
    (ht : t ∈ (chains.foldl (startChain id) s).tasks) : t ∈ s.tasks ∨ t.sprite = id := by
  induction chains generalizing s with
  | nil => exact Or.inl ht
  | cons chain rest ih =>
    rcases ih (s.startChain id chain) ht with hold | hsprite
    · rcases List.mem_append.1 hold with hold | hnew
      · exact Or.inl hold
      · rw [List.mem_singleton.1 hnew]
        exact Or.inr rfl
    · exact Or.inr hsprite

/-- A run that puts new chains on a sprite cancels those that were there. -/
private theorem isCancelled_startChosen {s : Session α} (h : s.Consistent)
    (choose : Program → List Chain) (id : Nat) {t : Task α} (ht : t.Registered s.stage.registry)
    (hchain : t.isChain = true) {new : Task α} (hnew : new ∈ (s.startChosen choose id).tasks)
    (hle : s.nextTask ≤ new.id) (hsprite : new.sprite = t.sprite) :
    (s.startChosen choose id).stage.registry.isCancelled t.token = true := by
  have hfresh (hold : new ∈ s.tasks) : False := by
    have hlt := h.accounts.id_lt new hold
    omega
  unfold startChosen at hnew ⊢
  generalize choose (s.stage.programOf id) = chains at hnew ⊢
  cases chains with
  | nil => exact (hfresh hnew).elim
  | cons first rest =>
    dsimp only at hnew ⊢
    rw [startRun_eq] at hnew ⊢
    rcases sprite_of_startChains id _ (s.halt id) hnew with hold | hid
    · exact (hfresh hold).elim
    · have hhalted := isCancelled_halt ht hchain
      rw [← hsprite, hid] at hhalted
      have hserial := Nat.lt_of_lt_of_le ht.serial_lt (s.stage.registry.nextSerial_le_cancelChains id)
      exact (grows_startChains id _ (s.halt id)).cancelled hserial hhalted

/-- The same for runs on many sprites. The new chain has come in with one of them. -/
private theorem isCancelled_startAll (choose : Program → List Chain) (hnil : choose [] = [])
    (ids : List Nat) {s : Session α} (h : s.Consistent) {t : Task α}
    (ht : t.Registered s.stage.registry) (hchain : t.isChain = true) {new : Task α}
    (hnew : new ∈ (ids.foldl (fun s id => s.startChosen choose id) s).tasks)
    (hle : s.nextTask ≤ new.id) (hsprite : new.sprite = t.sprite) :
    (ids.foldl (fun s id => s.startChosen choose id) s).stage.registry.isCancelled t.token = true := by
  induction ids generalizing s with
  | nil =>
    have hlt := h.accounts.id_lt new hnew
    omega
  | cons id rest ih =>
    have hmoves := moves_startChosen hnil id s
    have hfirst := precedes_of_moves hmoves
    have hregistered := ht.grows hfirst.grows
    by_cases hlate : (s.startChosen choose id).nextTask ≤ new.id
    · exact ih (h.moves hmoves) hregistered hnew hlate
    · have hrests := moves_startAll hnil rest (s.startChosen choose id)
      have hrest := precedes_of_moves hrests
      have hlast := (h.moves hmoves).moves hrests
      obtain ⟨old, hold, hsame, _⟩ :=
        hrest.task? new.id new (by omega) (hlast.task?_eq_some_iff.2 ⟨hnew, rfl⟩)
      obtain ⟨hmem, hid⟩ := mem_of_task? hold
      have hcancelled := isCancelled_startChosen h choose id ht hchain hmem (by omega)
        (hsame.trans hsprite)
      exact hrest.grows.cancelled hregistered.serial_lt hcancelled

omit [Scalar α] in
/-- A sprite that is not there has no work that could be cancelled. -/
private theorem isCancelled_of_unknown {s : Session α} (h : s.Consistent) {t : Task α}
    (ht : t ∈ s.tasks) (hunknown : ¬ s.stage.store.contains t.sprite = true) :
    s.stage.registry.isCancelled t.token = true := by
  by_contra hlive
  rw [Bool.not_eq_true] at hlive
  exact hunknown (h.contains_of_live ht hlive)

/-- A control that clears a sprite cancels whatever task the sprite has. -/
theorem isCancelled_of_clears {s : Session α} (h : s.Consistent) {t : Task α} (ht : t ∈ s.tasks)
    {control : Control α} (hclears : control.Clears t.sprite) :
    (s.perform control).stage.registry.isCancelled t.token = true := by
  cases control with
  | delete id =>
    cases hclears
    change (s.stage.delete t.sprite).registry.isCancelled t.token = true
    unfold Stage.delete
    split
    case isTrue =>
      have hcancelled := s.stage.registry.isCancelled_cancelSprite_self t.token
      rwa [(h.accounts.registered t ht).sprite] at hcancelled
    case isFalse hunknown => exact isCancelled_of_unknown h ht hunknown
  | reset => exact TaskRegistry.isCancelled_cancelAll _ _
  | _ => exact hclears.elim

/-- A control that stops the chains of a sprite cancels those under way. -/
theorem isCancelled_of_stops {s : Session α} (h : s.Consistent) {t : Task α} (ht : t ∈ s.tasks)
    (hchain : t.isChain = true) {control : Control α} (hstops : control.Stops s t.sprite) :
    (s.perform control).stage.registry.isCancelled t.token = true := by
  have hregistered := h.accounts.registered t ht
  cases control with
  | run id =>
    obtain ⟨new, hnew, hle, hsprite⟩ := hstops
    exact isCancelled_startChosen h _ id hregistered hchain hnew hle hsprite
  | runAll =>
    obtain ⟨new, hnew, hle, hsprite⟩ := hstops
    exact isCancelled_startAll _ rfl _ h hregistered hchain hnew hle hsprite
  | undo =>
    obtain ⟨entry, rest, hpop, hid⟩ := hstops
    change s.stage.undoLast.registry.isCancelled t.token = true
    rw [Stage.undoLast, hpop]
    dsimp only
    rw [Stage.registry_commit, hid]
    exact isCancelled_halt hregistered hchain
  | delete id => exact isCancelled_of_clears h ht hstops
  | reset => exact isCancelled_of_clears h ht trivial
  | _ => exact hstops.elim

/-- Running a sprite leaves its timers alone. -/
private theorem holdsTimer_startChosen (choose : Program → List Chain) (id : Nat) {s : Session α}
    {token : Token} (htoken : s.stage.registry.Holds .timer token) :
    (s.startChosen choose id).stage.registry.Holds .timer token := by
  have hstarts : ∀ (chains : List Chain) (s : Session α), s.stage.registry.Holds .timer token →
      (chains.foldl (startChain id) s).stage.registry.Holds .timer token := by
    intro chains
    induction chains with
    | nil => exact fun _ h => h
    | cons chain rest ih =>
      intro s h
      apply ih
      rw [registry_startChain]
      exact h.startChain id
  unfold startChosen
  split
  · exact htoken
  · rw [startRun_eq]
    exact hstarts _ (s.halt id) (htoken.cancelChains nofun)

/-- A control operation that does not remove all work of a sprite leaves its timers alone. -/
theorem holdsTimer_perform {s : Session α} {token : Token} {control : Control α}
    (htoken : s.stage.registry.Holds .timer token) (hkeeps : ¬ control.Clears token.sprite) :
    (s.perform control).stage.registry.Holds .timer token := by
  cases control with
  | run id => exact holdsTimer_startChosen Program.flagged id htoken
  | runAll =>
    change (s.stage.store.ids.foldl _ s).stage.registry.Holds .timer token
    generalize s.stage.store.ids = ids
    induction ids generalizing s with
    | nil => exact htoken
    | cons id rest ih => exact ih (holdsTimer_startChosen Program.topLevel id htoken)
  | undo =>
    change s.stage.undoLast.registry.Holds .timer token
    unfold Stage.undoLast
    split
    · exact htoken
    · rw [Stage.registry_commit]
      exact htoken.cancelChains nofun
  | delete id =>
    change (s.stage.delete id).registry.Holds .timer token
    unfold Stage.delete
    split
    · exact htoken.cancelSprite (Ne.symm hkeeps)
    · exact htoken
  | reset => exact absurd trivial hkeeps
  | switchHero enabled => cases enabled <;> exact htoken
  | toggleHero =>
    change (s.stage.switchHero (!s.stage.hero.enabled)).registry.Holds .timer token
    cases s.stage.hero.enabled <;> exact htoken
  | setPosition | moveTo | setRotation | changeSize | setProgram =>
    simp only [perform, onStage, Stage.setPosition, Stage.moveTo, Stage.setRotation, Stage.changeSize,
      Stage.setProgram, Stage.registry_commit]
    exact htoken
  | add | select | unselect | movePointer => exact htoken

/-- A timer is cancelled by no event but a reset or the deletion of its sprite. -/
theorem holdsTimer_handle {s : Session α} (h : s.Consistent) {token : Token} {event : Event α}
    (htoken : s.stage.registry.Holds .timer token)
    (hkeeps : ∀ control, event = .control control → ¬ control.Clears token.sprite) :
    (s.handle event).stage.registry.Holds .timer token := by
  cases event with
  | control control => exact holdsTimer_perform htoken (hkeeps control rfl)
  | step n =>
    simp only [handle]
    cases ht : s.task? n with
    | none => exact htoken
    | some t =>
      dsimp only
      rw [stage_runTask]
      exact (h.stepped (mem_of_task? ht).1).holdsTimer htoken
  | pass ms => exact htoken

/-- What cancels a speech timer that is still under way is a control operation that removes all work of
    its sprite, and each of these does. -/
theorem isCancelled_iff_of_holdsTimer {s : Session α} (h : s.Consistent) {m : Nat}
    {first timer : Task α} (hfirst : s.task? m = some first)
    (htoken : s.stage.registry.Holds .timer first.token) {later : List (Event α)}
    (htimer : (s.play later).task? m = some timer) :
    (s.play later).stage.registry.isCancelled timer.token = true ↔
      ∃ control, .control control ∈ later ∧ control.Clears first.sprite := by
  induction later generalizing s first with
  | nil =>
    rw [play_nil, hfirst, Option.some.injEq] at htimer
    simp [← htimer, htoken.live]
  | cons event rest ih =>
    obtain ⟨hmem, hid⟩ := mem_of_task? hfirst
    have hlt : m < s.nextTask := hid ▸ h.accounts.id_lt first hmem
    have hprecedes := h.precedes_handle event
    have hlt' := Nat.lt_of_lt_of_le hlt hprecedes.nextTask_le
    have hrest := (h.handle event).precedes_play rest
    obtain ⟨next, hnext, _⟩ := hrest.task? m timer hlt' htimer
    obtain ⟨hsprite, hsame, _⟩ := hprecedes.of_task?_eq_some hlt hfirst hnext
    by_cases hclears : ∃ control, event = .control control ∧ control.Clears first.sprite
    · obtain ⟨control, rfl, hclears⟩ := hclears
      refine iff_of_true ?_ ⟨control, List.mem_cons_self, hclears⟩
      have hcancelled := isCancelled_of_clears h hmem hclears
      have hserial := ((h.accounts.registered first hmem).grows hprecedes.grows).serial_lt
      obtain ⟨_, hlast, _⟩ := hrest.of_task?_eq_some hlt' hnext htimer
      rw [← hlast, ← hsame]
      exact hrest.grows.cancelled hserial hcancelled
    · have hkeeps : ∀ control, event = .control control → ¬ control.Clears first.token.sprite := by
        rintro control rfl hcovered
        rw [(h.accounts.registered first hmem).sprite] at hcovered
        exact hclears ⟨control, rfl, hcovered⟩
      have hstill := holdsTimer_handle h htoken hkeeps
      rw [hsame] at hstill
      rw [play_cons, ih (h.handle event) hnext hstill htimer, ← hsprite]
      constructor
      · rintro ⟨control, hcontrol, hcovered⟩
        exact ⟨control, List.mem_cons_of_mem _ hcontrol, hcovered⟩
      · rintro ⟨control, hcontrol, hcovered⟩
        rcases List.mem_cons.1 hcontrol with rfl | hcontrol
        · exact absurd ⟨control, rfl, hcovered⟩ hclears
        · exact ⟨control, hcontrol, hcovered⟩

/-- A step of a cancelled task drops the task and nothing else. -/
theorem stage_runTask_of_cancelled {s : Session α} {t : Task α}
    (hcancelled : s.stage.registry.isCancelled t.token = true) : (s.runTask t).stage = s.stage := by
  rw [stage_runTask, Task.step_of_cancelled hcancelled]

/-- Work that was stopped stays without effect. Once a run has put new chains on a sprite, or an undo
    or a deletion of the sprite or a reset is over, no later step of a chain of the sprite that was
    under way before changes the stage, and after a deletion or a reset no step of a speech timer
    does either. -/
theorem stage_handle_step_of_stopped {s : Session α} (hs : s.Reachable) {n : Nat} {t : Task α}
    (ht : s.task? n = some t) {control : Control α}
    (hstops : (t.isChain = true ∧ control.Stops s t.sprite) ∨ control.Clears t.sprite)
    (later : List (Event α)) :
    (((s.perform control).play later).handle (.step n)).stage =
      ((s.perform control).play later).stage := by
  have h := hs.consistent
  obtain ⟨hmem, hid⟩ := mem_of_task? ht
  have hcancelled : (s.perform control).stage.registry.isCancelled t.token = true := by
    rcases hstops with ⟨hchain, hstops⟩ | hclears
    · exact isCancelled_of_stops h hmem hchain hstops
    · exact isCancelled_of_clears h hmem hclears
  have hcontrol := precedes_of_moves (moves_perform control s)
  have hlater := (hs.perform control).consistent.precedes_play later
  have hserial := ((h.accounts.registered t hmem).grows hcontrol.grows).serial_lt
  have hstill := hlater.grows.cancelled hserial hcancelled
  rw [handle]
  cases hfound : ((s.perform control).play later).task? n with
  | none => rfl
  | some current =>
    have hlt : n < s.nextTask := hid ▸ h.accounts.id_lt t hmem
    obtain ⟨old, hold, _, htoken, _⟩ := (hcontrol.trans hlater).task? n current hlt hfound
    rw [ht] at hold
    cases hold
    rw [htoken] at hstill
    exact stage_runTask_of_cancelled hstill

/-- A dog on its way through a glide of one second. -/
def gliding : Session Float :=
  let program : Program := [⟨⟨"f", "when_flag_clicked", [], [], []⟩,
    [⟨"g", "glide", [("seconds", .int 1), ("x_position", .int 90), ("y_position", .int 40)], [], []⟩]⟩]
  (new Config.default 0).play
    [.control (.add .dog), .control (.setProgram 1 program), .control (.run 1), .step 0, .step 0]

/-- A glide that was under way draws no frame once the program runs anew. -/
theorem stage_handle_step_of_stopped_gliding : ∃ t, gliding.task? 0 = some t ∧ t.isChain = true ∧
    Control.Stops (.run 1) gliding t.sprite ∧
    (((gliding.perform (.run 1)).play [.step 1, .pass 40]).handle (.step 0)).stage =
      ((gliding.perform (.run 1)).play [.step 1, .pass 40]).stage := by
  have hreachable : gliding.Reachable := ⟨Config.default, 0, _, rfl⟩
  have hfound : (gliding.task? 0).isSome = true := by decide
  obtain ⟨t, ht⟩ := Option.isSome_iff_exists.1 hfound
  have hkept : (gliding.task? 0).all (fun t => t.isChain && t.sprite = 1) = true := by decide
  rw [ht, Option.all_some, Bool.and_eq_true, decide_eq_true_eq] at hkept
  obtain ⟨hchain, hsprite⟩ := hkept
  have hstops : Control.Stops (.run 1) gliding t.sprite := by
    rw [hsprite]
    unfold Control.Stops Starts
    decide
  exact ⟨t, ht, hchain, hstops,
    stage_handle_step_of_stopped hreachable ht (Or.inl ⟨hchain, hstops⟩) _⟩

end Session

end SpriteStage
