import Mathlib.Logic.Relation
import SpriteStage.Proofs.Session.Reachable
import SpriteStage.Proofs.Stage.Runs

namespace SpriteStage

variable {α : Type}

/-- The change of a sprite by hand leaves alone what the running programs show. -/
structure Sprite.Edit (change : Sprite α → Sprite α) : Prop where
  kind : ∀ sprite, (change sprite).kind = sprite.kind
  speech : ∀ sprite, (change sprite).speech = sprite.speech
  animation : ∀ sprite, (change sprite).animation = sprite.animation
  isRunning : ∀ sprite, (change sprite).isRunning = sprite.isRunning

namespace Session

variable [Scalar α]

/-- The chains of a sprite are stopped, and the sprite is logged as it was without them. -/
def halt (id : Nat) (s : Session α) : Session α :=
  s.onStage fun stage =>
    let stage := stage.cancelChains id
    { stage with
      undo := match stage.store.get? id with
        | some prior => stage.undo.push id prior
        | none => stage.undo }

theorem startRun_eq (id : Nat) (chains : List Chain) (s : Session α) :
    s.startRun id chains = chains.foldl (startChain id) (s.halt id) := rfl

/-- One move of a control operation. -/
inductive Move : Session α → Session α → Prop where
  | edit {s : Session α} (id : Nat) {change : Sprite α → Sprite α} (hedit : Sprite.Edit change) :
      Move s (s.onStage (.commit id change))
  | add {s : Session α} (kind : SpriteKind) : Move s (s.onStage (.add kind))
  | select {s : Session α} (id : Nat) : Move s (s.onStage (.select id))
  | unselect {s : Session α} : Move s (s.onStage .unselect)
  | delete {s : Session α} (id : Nat) : Move s (s.onStage (.delete id))
  | movePointer {s : Session α} (pointer : Position α) : Move s (s.onStage (.movePointer pointer))
  | undo {s : Session α} : Move s (s.onStage .undoLast)
  | reset {s : Session α} : Move s (s.onStage .reset)
  | switchHero {s : Session α} (enabled : Bool) : Move s (s.onStage (.switchHero enabled))
  | halt {s : Session α} {id : Nat} (hknown : s.stage.store.contains id = true) : Move s (s.halt id)
  | start {s : Session α} {id : Nat} (hknown : s.stage.store.contains id = true) (chain : Chain) :
      Move s (s.startChain id chain)

omit [Scalar α] in
/-- Halting brings no sprite onto the stage and takes none off it. -/
theorem contains_halt (id other : Nat) (s : Session α) :
    (s.halt id).stage.store.contains other = s.stage.store.contains other :=
  s.stage.store.contains_update id other Sprite.idle

theorem contains_startChain (id other : Nat) (s : Session α) (chain : Chain) :
    (s.startChain id chain).stage.store.contains other = s.stage.store.contains other := by
  have hcommit := Stage.contains_commit id other (fun sprite => { sprite with isRunning := true })
    { s.stage with registry := s.stage.registry.startChain id }
  exact hcommit

/-- Starting a chain registers it and touches nothing else in the registry. -/
theorem registry_startChain (id : Nat) (s : Session α) (chain : Chain) :
    (s.startChain id chain).stage.registry = s.stage.registry.startChain id :=
  Stage.registry_commit id (fun sprite => { sprite with isRunning := true })
    { s.stage with registry := s.stage.registry.startChain id }

/-- Running a sprite is a row of moves: one halt, and one start for each chain. -/
theorem moves_startRun {s : Session α} {id : Nat} (hknown : s.stage.store.contains id = true)
    (chains : List Chain) : Relation.ReflTransGen Move s (s.startRun id chains) := by
  rw [startRun_eq]
  have hstarts : ∀ s : Session α, s.stage.store.contains id = true →
      Relation.ReflTransGen Move s (chains.foldl (startChain id) s) := by
    induction chains with
    | nil => exact fun s _ => .refl
    | cons chain rest ih =>
      intro s hknown
      refine .head (.start hknown chain) (ih _ ?_)
      rwa [contains_startChain]
  exact .head (.halt hknown) (hstarts _ (by rwa [contains_halt]))

/-- A sprite without a program, and so any sprite that is not there, starts nothing. -/
theorem moves_startChosen {choose : Program → List Chain} (hnil : choose [] = []) (id : Nat)
    (s : Session α) : Relation.ReflTransGen Move s (s.startChosen choose id) := by
  unfold startChosen
  split
  case h_1 => exact .refl
  case h_2 hchains =>
    apply moves_startRun
    rw [Store.contains_iff_get?]
    cases hsprite : s.stage.store.get? id with
    | some sprite => exact ⟨sprite, rfl⟩
    | none =>
      rw [Stage.programOf, hsprite, Option.elim_none] at hchains
      exact absurd hnil hchains

/-- Running several sprites is a row of moves, sprite by sprite. -/
theorem moves_startAll {choose : Program → List Chain} (hnil : choose [] = []) (ids : List Nat)
    (s : Session α) :
    Relation.ReflTransGen Move s (ids.foldl (fun s id => s.startChosen choose id) s) := by
  induction ids generalizing s with
  | nil => exact .refl
  | cons id rest ih => exact (moves_startChosen hnil id s).trans (ih _)

/-- Every control operation is a row of moves. -/
theorem moves_perform (control : Control α) (s : Session α) :
    Relation.ReflTransGen Move s (s.perform control) := by
  cases control with
  | add kind => exact .single (.add kind)
  | select id => exact .single (.select id)
  | unselect => exact .single .unselect
  | delete id => exact .single (.delete id)
  | setPosition id axis value =>
    cases axis <;> exact .single (.edit id ⟨fun _ => rfl, fun _ => rfl, fun _ => rfl, fun _ => rfl⟩)
  | moveTo id position =>
    exact .single (.edit id ⟨fun _ => rfl, fun _ => rfl, fun _ => rfl, fun _ => rfl⟩)
  | setRotation id rotation =>
    exact .single (.edit id ⟨fun _ => rfl, fun _ => rfl, fun _ => rfl, fun _ => rfl⟩)
  | changeSize id delta =>
    exact .single (.edit id ⟨fun _ => rfl, fun _ => rfl, fun _ => rfl, fun _ => rfl⟩)
  | setProgram id program =>
    exact .single (.edit id ⟨fun _ => rfl, fun _ => rfl, fun _ => rfl, fun _ => rfl⟩)
  | movePointer pointer => exact .single (.movePointer pointer)
  | run id => exact moves_startChosen rfl id s
  | runAll => exact moves_startAll rfl s.stage.store.ids s
  | undo => exact .single .undo
  | reset => exact .single .reset
  | switchHero enabled => exact .single (.switchHero enabled)
  | toggleHero => exact .single (.switchHero _)

/-- What outlasts every move outlasts every row of moves. -/
theorem moves_induction {motive : Session α → Prop} {s after : Session α}
    (hmoves : Relation.ReflTransGen Move s after) (hs : motive s)
    (hmove : ∀ s after, motive s → Move s after → motive after) : motive after := by
  induction hmoves with
  | refl => exact hs
  | tail _ hlast ih => exact hmove _ _ ih hlast

end Session

end SpriteStage
