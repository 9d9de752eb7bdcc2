import Narrative.Engine
import Narrative.Proofs.Calls

/-!
# Proofs/Deeds — which statements a game runs and undoes, and by which actions

A chain forward runs one statement after another, and a chain back undoes one after another.  Their
**deeds** are the lists of those statements, each with its position and the action that it goes to,
whatever the actions are: every invocation is made by the action that its statement goes to
(`handler?_of_invoke`), so whatever is undone is undone by an action (`handled_of_undo`).
-/

namespace Narrative

/-! ## What is run -/

section Deeds

variable (book : Playbook) (registry : Registry)

/-- **The statements that a chain runs** from the cursor, at most `allowed` of them. -/
def Run.deeds : Nat → World → List Deed
  | 0, _ => []
  | allowed + 1, world =>
    match book.current? world with
    | none => []
    | some statement =>
      Deed.of book registry world world.cursor statement ::
        match Run.perform book registry statement true world with
        | .ok .advance after => deeds allowed (Next.step book after)
        | .ok .enter after => deeds allowed after
        | _ => []

/-- **The statements that going on runs**, step after step. -/
def Run.nextDeeds : Nat → World → List Deed
  | 0, _ => []
  | count + 1, world =>
    Run.deeds book registry book.settings.maxChain (Next.step book world)
      ++ nextDeeds count (Result.left (Run.next book registry world))

end Deeds

/-! ## The action of a statement -/

/-- The action of a statement depends on the world data and on what stands for a placeholder whose
path leads nowhere. -/
theorem handler?_congr {σ : Type} {book book' : Playbook σ} {registry : Registry σ}
    {world other : World} {statement : Statement σ}
    (hunresolved : book'.settings.unresolved = book.settings.unresolved)
    (hstorage : other.storage = world.storage) :
    registry.handler? book' other statement = registry.handler? book world statement := by
  cases statement with
  | text line => simp only [Registry.handler?, Playbook.substitute, hunresolved, hstorage]
  | record fields => rfl
  | callback run => rfl

namespace Engine

variable {σ : Type} {engine : Engine σ} {s after : σ} {statement : Statement σ}

/-- **An invocation is made by the action** that its statement goes to. -/
theorem handler?_of_invoke {invocation : Invocation σ}
    (h : engine.invoke s statement = .ok invocation) :
    ∃ action instruction,
      (engine.registry s).handler? (engine.book s) (engine.world s) statement = some action
        ∧ action.invoke (engine.book s) s instruction = .ok invocation := by
  cases statement with
  | text line =>
    cases hfill : (engine.book s).substitute (engine.world s) line with
    | error fault => simp [invoke, hfill, bind, Except.bind] at h
    | ok text =>
      simp only [invoke, hfill, bind, Except.bind] at h
      simp only [Registry.handler?, hfill]
      split at h
      · cases h
      · next action hfound => exact ⟨action, _, hfound, h⟩
  | record fields =>
    simp only [invoke] at h
    split at h
    · cases h
    · next action hfound => exact ⟨action, _, hfound, h⟩
  | callback run => cases h

/-- What is undone was undone by an action. -/
theorem handled_of_undo {flow : Flow} (h : engine.undo statement s = .ok flow after) :
    ((engine.registry s).handler? (engine.book s) (engine.world s) statement).isSome = true := by
  unfold undo at h
  split at h
  · cases h
  · next invocation hmade =>
    obtain ⟨action, -, hfound, -⟩ := handler?_of_invoke hmade
    rw [hfound]
    rfl

/-! Where hooks leave all but the world alone, an engine makes the same invocations, and runs and
undoes a statement in the same way. -/

variable {book : Playbook} {registry : Registry}

theorem invoke_fixed (world : World) (statement : Statement) :
    (fixed book registry).invoke world statement = registry.invoke book world statement := by
  cases statement with
  | text line =>
    refine bind_congr fun text => ?_
    simp only [fixed]
    cases registry.forWords? (Instruction.ofText (.text line) text).words <;> rfl
  | record fields =>
    simp only [invoke, Registry.invoke, fixed]
    cases registry.forRecord? fields <;> rfl
  | callback run => rfl

theorem callback_fixed (run : Play Unit) :
    (fixed book registry).callback run = Run.callback run := by
  funext world
  simp only [callback, Run.callback, change, fixed, id]
  cases run (world.withGlobals ({ · with block := true })) <;> rfl

theorem perform_fixed (statement : Statement) (advance : Bool) :
    (fixed book registry).perform statement advance
      = Run.perform book registry statement advance := by
  cases statement with
  | callback run => exact callback_fixed run
  | _ =>
    funext world
    unfold perform Run.perform
    dsimp only
    rw [invoke_fixed]
    generalize registry.invoke book world _ = made
    cases made <;> rfl

theorem undo_fixed (statement : Statement) :
    (fixed book registry).undo statement = Rewind.undo book registry statement := by
  funext world
  simp only [undo, Rewind.undo, invoke_fixed]
  cases registry.invoke book world statement <;> rfl

end Engine

section Handled

variable {book : Playbook} {registry : Registry} {world after : World} {statement : Statement}

theorem handler?_of_invoke {invocation : Invocation}
    (h : registry.invoke book world statement = .ok invocation) :
    ∃ action instruction, registry.handler? book world statement = some action
      ∧ action.invoke book world instruction = .ok invocation :=
  Engine.handler?_of_invoke (Engine.invoke_fixed world statement |>.trans h)

theorem handled_of_undo {flow : Flow}
    (h : Rewind.undo book registry statement world = .ok flow after) :
    (registry.handler? book world statement).isSome = true :=
  Engine.handled_of_undo ((congrFun (Engine.undo_fixed statement) world).trans h)

end Handled

/-! ## A computation, so many times -/

/-- **A computation, so many times.** -/
def repeated {σ : Type} (run : EStateM Fault σ Unit) : Nat → EStateM Fault σ Unit
  | 0 => pure ()
  | count + 1 => do
    run
    repeated run count

/-- A computation on the world of a game, so many times, changes nothing else. -/
theorem repeated_ofPlay {game reached : Game} {count : Nat}
    {play : Playbook → Registry → Play Unit} :
    repeated (Turn.ofPlay play) count game = .ok () reached
      ↔ ∃ world, repeated (play game.book game.registry) count game.world = .ok () world
        ∧ reached = { game with world := world } := by
  induction count generalizing game with
  | zero =>
    constructor
    · intro h
      exact ⟨game.world, rfl, (EStateM.Result.ok.inj h).2.symm⟩
    · rintro ⟨world, hworld, rfl⟩
      obtain ⟨-, rfl⟩ := EStateM.Result.ok.inj hworld
      rfl
  | succ count ih =>
    constructor
    · intro h
      obtain ⟨_, first, hfirst, hrest⟩ := Result.bind_eq_ok.1 h
      obtain ⟨mid, hmid, rfl⟩ := ofPlay_eq_ok.1 hfirst
      obtain ⟨world, hworld, rfl⟩ := ih.1 hrest
      exact ⟨world, Result.bind_eq_ok.2 ⟨(), mid, hmid, hworld⟩, rfl⟩
    · rintro ⟨world, hworld, rfl⟩
      obtain ⟨_, mid, hmid, hrest⟩ := Result.bind_eq_ok.1 hworld
      exact Result.bind_eq_ok.2 ⟨(), { game with world := mid }, ofPlay_eq_ok.2 ⟨mid, hmid, rfl⟩,
        ih.2 ⟨world, hrest, rfl⟩⟩

/-! ## A game that was started -/

/-- The game as its first statement is to be run: a game is in progress, and every action was told
that it starts. -/
def Game.prepared (game : Game) : Game :=
  Result.left (Game.eachAction Action.onStart game.setPlaying)

end Narrative
