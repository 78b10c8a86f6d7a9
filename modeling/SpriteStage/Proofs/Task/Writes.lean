import SpriteStage.Proofs.Stage.Trading
import SpriteStage.Proofs.Task.Acts

namespace SpriteStage

variable {α : Type}

/-- The next step of the task puts up a bubble. -/
def Task.Speaks (stage : Stage α) (t : Task α) : Prop :=
  ∃ b, t.act? stage = some (.dispatch b) ∧ b.speaks = true

/-- The task is a speech timer that has run down. -/
def Task.Clears (t : Task α) : Prop :=
  ∃ delay, t.work = .clearSpeech delay true

/-- What one step writes. -/
structure Write (α : Type) where
  random : RandomStream
  registry : TaskRegistry
  change : Option (Sprite α → Sprite α)

/-- The write leaves alone which kind the sprite is of and which program it has. It takes a bubble down
    or puts one up only if it is to clear or to speak. -/
structure Write.Fits (w : Write α) (stage : Stage α) (id : Nat) (clears speaks : Prop) : Prop where
  kind : ∀ change sprite, w.change = some change → stage.store.get? id = some sprite →
    (change sprite).kind = sprite.kind
  program : ∀ change sprite, w.change = some change → stage.store.get? id = some sprite →
    (change sprite).program = sprite.program
  speech : ∀ change sprite, w.change = some change → stage.store.get? id = some sprite →
    (change sprite).speech = sprite.speech ∨ (clears ∧ (change sprite).speech = .cleared) ∨ speaks

namespace Write.Fits

variable {random : RandomStream} {registry : TaskRegistry} {stage : Stage α} {id : Nat}
  {clears speaks : Prop}

/-- A write without a change of the sprite fits every step. -/
theorem without_change : (⟨random, registry, none⟩ : Write α).Fits stage id clears speaks :=
  ⟨nofun, nofun, nofun⟩

/-- A write that changes neither kind nor program nor bubble fits every step. -/
theorem of_silent {change : Sprite α → Sprite α} (hkind : ∀ s, (change s).kind = s.kind)
    (hprogram : ∀ s, (change s).program = s.program) (hspeech : ∀ s, (change s).speech = s.speech) :
    (⟨random, registry, some change⟩ : Write α).Fits stage id clears speaks := by
  refine ⟨?_, ?_, ?_⟩
  all_goals rintro _ sprite ⟨⟩ _
  · exact hkind sprite
  · exact hprogram sprite
  · exact Or.inl (hspeech sprite)

/-- A write that fits a step fits one that may do more. -/
theorem imp {w : Write α} {clears' speaks' : Prop} (h : w.Fits stage id False speaks)
    (himp : stage.store.contains id = true → speaks → speaks') : w.Fits stage id clears' speaks' := by
  refine ⟨h.kind, h.program, ?_⟩
  intro change sprite hchange hsprite
  have hknown := (stage.store.contains_iff_get? id).2 ⟨sprite, hsprite⟩
  rcases h.speech change sprite hchange hsprite with hsame | hcleared | hspeaks
  · exact Or.inl hsame
  · exact hcleared.1.elim
  · exact Or.inr (Or.inr (himp hknown hspeaks))

end Write.Fits

namespace Effect

/-- What an effect does to the sprite. -/
def change? : Effect α → Option (Sprite α → Sprite α)
  | .update next => some fun _ => next
  | .speakFor next _ => some fun _ => next
  | .glide _ durationMs => some fun sprite => { sprite with animation := some ⟨durationMs⟩ }
  | _ => none

/-- What an effect does to the registry: a timer needs its sprite to be registered. -/
def registry (id : Nat) (before : TaskRegistry) : Effect α → TaskRegistry
  | .speakFor _ _ => before.ensure id
  | _ => before

/-- How a chain goes on after an effect. -/
def after (origin : Position α) : Effect α → After α
  | .update _ => .advance
  | .speakFor _ clearAfterMs => .advanceAndClear (Delay.ofMillis clearAfterMs)
  | .glide target durationMs => .glide origin target durationMs
  | .wait durationMs => .sleep (Delay.ofMillis durationMs)
  | .repeatAbove times => .repeatAbove times
  | .pass => .advance

end Effect

variable [Scalar α]

/-- What a block makes of its sprite fits the step that dispatches it. -/
theorem Effect.fits_change? {b : Block} {sprite : Sprite α} {context : Context α} {stage : Stage α}
    {id : Nat} (hsprite : stage.store.get? id = some sprite) {effect : Effect α}
    (heffect : b.dispatch sprite context = effect) {random : RandomStream} {registry : TaskRegistry} :
    (⟨random, registry, effect.change?⟩ : Write α).Fits stage id False (b.speaks = true) := by
  have hwrites {next : Sprite α} (hnext : (b.dispatch sprite context).sprite? = some next) :
      (⟨random, registry, some fun _ => next⟩ : Write α).Fits stage id False (b.speaks = true) := by
    have hleaves := Block.leaves_of_dispatch hnext
    refine ⟨?_, ?_, ?_⟩
    all_goals
      rintro _ old ⟨⟩ hold
      rw [hsprite, Option.some.injEq] at hold
      subst hold
    · exact hleaves.kind
    · exact hleaves.program
    · cases hspeaks : b.speaks with
      | true => exact Or.inr (Or.inr rfl)
      | false => exact Or.inl (hleaves.speech hspeaks)
  cases effect with
  | update next => exact hwrites (by rw [heffect]; rfl)
  | speakFor next clearAfterMs => exact hwrites (by rw [heffect]; rfl)
  | glide target durationMs => exact .of_silent (fun _ => rfl) (fun _ => rfl) fun _ => rfl
  | wait durationMs => exact .without_change
  | repeatAbove times => exact .without_change
  | pass => exact .without_change

namespace Stage

def write (id : Nat) (w : Write α) (stage : Stage α) : Stage α :=
  let written := { stage with random := w.random, registry := w.registry }
  w.change.elim written fun change => written.commit id change

/-- Committing a change and entering something in the registry can be done in either order. -/
theorem commit_with_registry (id : Nat) (change : Sprite α → Sprite α) (registry : TaskRegistry)
    (stage : Stage α) : { stage.commit id change with registry := registry } =
      ({ stage with registry := registry } : Stage α).commit id change := by
  unfold commit
  dsimp only
  split <;> rfl

/-- A write shows in its own sprite alone, as far as nothing is traded. -/
theorem map_get?_write {β : Type} {view : Sprite α → β} (hview : Store.Untraded view) (id other : Nat)
    (w : Write α) (stage : Stage α) :
    ((stage.write id w).store.get? other).map view =
      if other = id then
        (stage.store.get? id).map fun sprite => view (w.change.elim sprite fun change => change sprite)
      else (stage.store.get? other).map view := by
  unfold write
  cases w.change with
  | none =>
    split
    case isTrue hid => rw [hid]; rfl
    case isFalse => rfl
  | some change =>
    exact map_get?_commit hview id other change
      { stage with random := w.random, registry := w.registry }

/-- A write leaves the undo log alone. -/
@[simp] theorem undo_write (id : Nat) (w : Write α) (stage : Stage α) :
    (stage.write id w).undo = stage.undo := by
  unfold write
  cases w.change with
  | none => rfl
  | some change => exact undo_commit _ _ _

/-- A write brings no sprite in and takes none out. -/
@[simp] theorem contains_write (id other : Nat) (w : Write α) (stage : Stage α) :
    (stage.write id w).store.contains other = stage.store.contains other := by
  unfold write
  cases w.change with
  | none => rfl
  | some change => exact contains_commit _ _ _ _

/-- A write keeps the store well-formed. -/
theorem wellFormed_write {stage : Stage α} (h : stage.store.WellFormed) (id : Nat) (w : Write α) :
    (stage.write id w).store.WellFormed := by
  have hwritten :
      ({ stage with random := w.random, registry := w.registry } : Stage α).store.WellFormed := h
  unfold write
  cases w.change with
  | none => exact hwritten
  | some change => exact wellFormed_commit hwritten id change

/-- With Hero Mode off, a write is an update of the store. -/
theorem store_write_withHero_off (id : Nat) (w : Write α) (stage : Stage α) :
    ((stage.withHero .off).write id w).store =
      w.change.elim stage.store fun change => stage.store.update id change := by
  unfold write
  cases w.change with
  | none => rfl
  | some change =>
    have hcommit := commit_eq_update id change
      ({ stage with random := w.random, registry := w.registry } : Stage α)
    exact congrArg Stage.store hcommit

/-- A write is the write with Hero Mode off, and then Hero Mode catches up. -/
theorem Tracked.write {stage : Stage α} (h : stage.Tracked) (id : Nat) (w : Write α) :
    stage.write id w = ((stage.withHero .off).write id w).catchUp stage.hero := by
  have hwritten : ({ stage with random := w.random, registry := w.registry } : Stage α).Tracked :=
    ⟨h.wellFormed, h.knows⟩
  unfold Stage.write
  cases w.change with
  | none => exact hwritten.catchUp.symm
  | some change => exact hwritten.commit id change

/-- What is drawn at random does not depend on Hero Mode. -/
theorem drawFor_eq (b : Block) (stage : Stage α) : ∃ point random, ∀ hero,
    (stage.withHero hero).drawFor b = (point, { stage.withHero hero with random := random }) := by
  refine ⟨(stage.drawFor b).1, (stage.drawFor b).2.random, ?_⟩
  intro hero
  by_cases hdraws : b.is .goToRandom = true
  · simp only [drawFor, if_pos hdraws]
    rfl
  · simp only [drawFor, if_neg hdraws]
    rfl

/-- On a sprite that is there, carrying out a block writes what its effect asks for. -/
theorem execute_of_get? {id : Nat} {b : Block} {stage : Stage α} {sprite : Sprite α}
    (hsprite : stage.store.get? id = some sprite) {point : Position α} {random : RandomStream}
    (hdraw : stage.drawFor b = (point, { stage with random := random })) :
    let effect := b.dispatch sprite ⟨stage.pointer, point, stage.config.sayDisplayMs⟩
    stage.execute id b = (stage.write id ⟨random, effect.registry id stage.registry, effect.change?⟩,
      effect.after sprite.position) := by
  intro effect
  unfold execute
  rw [hdraw]
  simp only [hsprite]
  cases heffect : effect with
  | speakFor next clearAfterMs =>
    simp only [effect] at heffect
    simp only [heffect, registry_commit, commit_with_registry]
    rfl
  | _ =>
    simp only [effect] at heffect
    simp only [heffect]
    rfl

/-- Carrying out a block is one write. -/
theorem execute_eq_write (id : Nat) (b : Block) (stage : Stage α) :
    ∃ (w : Write α) (how : After α), w.Fits stage id False (b.speaks = true) ∧ ∀ hero,
      (stage.withHero hero).execute id b = ((stage.withHero hero).write id w, how) := by
  obtain ⟨point, random, hdraw⟩ := stage.drawFor_eq b
  cases hsprite : stage.store.get? id with
  | none =>
    refine ⟨⟨random, stage.registry, none⟩, .stop, .without_change, ?_⟩
    intro hero
    have hunknown : (stage.withHero hero).store.get? id = none := hsprite
    simp only [execute, hdraw, hunknown]
    rfl
  | some sprite =>
    let effect := b.dispatch sprite ⟨stage.pointer, point, stage.config.sayDisplayMs⟩
    refine ⟨⟨random, effect.registry id stage.registry, effect.change?⟩, effect.after sprite.position,
      Effect.fits_change? hsprite rfl, ?_⟩
    intro hero
    have hthere : (stage.withHero hero).store.get? id = some sprite := hsprite
    exact execute_of_get? hthere (hdraw hero)

/-- The end of a chain is a write. -/
theorem signOff_eq_write (id : Nat) (token : Token) (stage : Stage α) :
    ∃ w : Write α, w.Fits stage id False False ∧ ∀ hero,
      (stage.withHero hero).signOff id token = (stage.withHero hero).write id w := by
  by_cases hlast : stage.registry.isLast id token = true
  · refine ⟨⟨stage.random, stage.registry.finishChain id token,
      some fun s => { s with isRunning := false }⟩,
      .of_silent (fun _ => rfl) (fun _ => rfl) fun _ => rfl, ?_⟩
    intro hero
    exact if_pos hlast
  · refine ⟨⟨stage.random, stage.registry.finishChain id token, none⟩, .without_change, ?_⟩
    intro hero
    exact if_neg hlast

end Stage

namespace ChainRun

/-- The dispatch of a block is a write, which puts up a bubble only if the block speaks. -/
theorem stepDispatch_eq_write (now id : Nat) (cursor : Cursor) (stage : Stage α) :
    ∃ (w : Write α) (next : Option (Work α × Nat)) (timer : Option Delay),
      w.Fits stage id False
        (∃ b rest, cursor.advance stage.config.maxSteps = .due b rest ∧ b.speaks = true) ∧
      ∀ hero, stepDispatch now id cursor (stage.withHero hero) =
        ⟨(stage.withHero hero).write id w, next, timer⟩ := by
  have hpause (hero : HeroMode) (next : Cursor) :
      pauseBefore (stage.withHero hero) next = pauseBefore stage next := rfl
  have hconfig (hero : HeroMode) : (stage.withHero hero).config = stage.config := rfl
  simp only [stepDispatch, hconfig, hpause]
  cases hturn : cursor.advance stage.config.maxSteps with
  | finished =>
    exact ⟨⟨stage.random, stage.registry, none⟩, _, none, .without_change, fun _ => rfl⟩
  | runaway =>
    exact ⟨⟨stage.random, stage.registry, none⟩, _, none, .without_change, fun _ => rfl⟩
  | due b next =>
    obtain ⟨w, how, hfits, hwrite⟩ := stage.execute_eq_write id b
    simp only [hwrite]
    cases how
    all_goals exact ⟨w, _, _, hfits.imp fun _ hblock => ⟨b, next, rfl, hblock⟩, fun _ => rfl⟩

/-- A turn of a glide is a write. -/
theorem stepGlide_eq_write (now id : Nat) (cursor : Cursor) (origin target : Position α)
    (durationMs : Float) (started : Nat) (stage : Stage α) :
    ∃ (w : Write α) (next : Option (Work α × Nat)), w.Fits stage id False False ∧ ∀ hero,
      stepGlide now id cursor origin target durationMs started (stage.withHero hero) =
        ⟨(stage.withHero hero).write id w, next, none⟩ := by
  have hpause (hero : HeroMode) :
      pauseBefore (stage.withHero hero) cursor = pauseBefore stage cursor := rfl
  have hconfig (hero : HeroMode) : (stage.withHero hero).config = stage.config := rfl
  have hstore (hero : HeroMode) : (stage.withHero hero).store = stage.store := rfl
  simp only [stepGlide, hconfig, hstore, hpause]
  by_cases hknown : stage.store.contains id = true
  · simp only [if_pos hknown]
    cases (glideFraction? durationMs (now - started) : Option α) with
    | some fraction =>
      exact ⟨⟨stage.random, stage.registry,
        some fun s => { s with position := origin.towards target fraction }⟩, _,
        .of_silent (fun _ => rfl) (fun _ => rfl) fun _ => rfl, fun _ => rfl⟩
    | none =>
      exact ⟨⟨stage.random, stage.registry,
        some fun s => { s with animation := none, position := target }⟩, _,
        .of_silent (fun _ => rfl) (fun _ => rfl) fun _ => rfl, fun _ => rfl⟩
  · simp only [if_neg hknown]
    exact ⟨⟨stage.random, stage.registry, none⟩, _, .without_change, fun _ => rfl⟩

end ChainRun

namespace Task

/-- A step of a task is one write on its sprite. -/
theorem step_eq_write (now : Nat) (t : Task α) (stage : Stage α) :
    ∃ (w : Write α) (next : Option (Work α × Nat)) (timer : Option Delay),
      w.Fits stage t.sprite t.Clears (t.Speaks stage) ∧ ∀ hero,
        t.step now (stage.withHero hero) = ⟨(stage.withHero hero).write t.sprite w, next, timer⟩ := by
  let quiet : Write α := ⟨stage.random, stage.registry, none⟩
  have hquiet : quiet.Fits stage t.sprite t.Clears (t.Speaks stage) := .without_change
  cases hlive : stage.registry.isCancelled t.token with
  | true => exact ⟨quiet, none, none, hquiet, fun hero => if_pos hlive⟩
  | false =>
    have hnot (hero : HeroMode) : ¬ (stage.withHero hero).registry.isCancelled t.token = true := by
      rw [show (stage.withHero hero).registry = stage.registry from rfl, hlive]
      nofun
    simp only [step, if_neg (hnot _)]
    cases hwork : t.work with
    | clearSpeech delay armed =>
      cases armed with
      | false => exact ⟨quiet, some (.clearSpeech delay true, delay.millis), none, hquiet, fun _ => rfl⟩
      | true =>
        have hclears : t.Clears := ⟨delay, hwork⟩
        refine ⟨⟨stage.random, stage.registry, some fun s => { s with speech := .cleared }⟩, none, none,
          ⟨?_, ?_, ?_⟩, fun _ => rfl⟩
        all_goals rintro _ _ ⟨⟩ _
        · rfl
        · rfl
        · exact Or.inr (Or.inl ⟨hclears, rfl⟩)
    | chain run =>
      obtain ⟨cursor, phase⟩ := run
      cases phase with
      | signOff how =>
        obtain ⟨w, hfits, hwrite⟩ := stage.signOff_eq_write t.sprite t.token
        refine ⟨w, none, none, hfits.imp fun _ => False.elim, ?_⟩
        intro hero
        simp only [ChainRun.step, hwrite]
      | glide origin target durationMs started =>
        obtain ⟨w, next, hfits, hwrite⟩ := ChainRun.stepGlide_eq_write now t.sprite cursor origin
          target durationMs started stage
        exact ⟨w, next, none, hfits.imp fun _ => False.elim, hwrite⟩
      | dispatch =>
        obtain ⟨w, next, timer, hfits, hwrite⟩ :=
          ChainRun.stepDispatch_eq_write now t.sprite cursor stage
        refine ⟨w, next, timer, hfits.imp ?_, hwrite⟩
        rintro hknown ⟨b, rest, hturn, hblock⟩
        refine ⟨b, ?_, hblock⟩
        simp only [act?, hlive, hwork, hturn, hknown, if_true]
        rfl

/-- A task never touches another sprite than its own, trades apart. -/
theorem map_get?_step_of_ne {β : Type} {view : Sprite α → β} (hview : Store.Untraded view)
    {stage : Stage α} {t : Task α} {id : Nat} (hother : id ≠ t.sprite) (now : Nat) :
    ((t.step now stage).stage.store.get? id).map view = (stage.store.get? id).map view := by
  obtain ⟨w, next, timer, _, hwrite⟩ := t.step_eq_write now stage
  have hstep : t.step now stage = ⟨stage.write t.sprite w, next, timer⟩ := hwrite stage.hero
  rw [hstep, Stage.map_get?_write hview, if_neg hother]

end Task

end SpriteStage
