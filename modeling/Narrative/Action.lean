import Narrative.Playbook

/-!
# Action — what a kind of statement does, forward and backward

An **action** says which statements it handles and makes an **invocation** of each: what to do to
run the statement and what to do to undo it, each in three stages.  The stage before may refuse, the
middle stage acts and returns effects, and the stage after says how to go on (`Flow`).

Beside that, an action has hooks for the life of a game, and two guards that every wish of the
player to continue or go back has to pass.

Hooks are computations on some state `σ`.  Unless another one is named it is the world: such hooks
read the script, the settings and the preferences, but change none of them, and no registry.  An
`Engine` has hooks that may change these too.
-/

namespace Narrative

/-- **How to go on after a statement.** -/
inductive Flow where
  /-- Wait for the player. -/
  | wait
  /-- Go on in the same direction. -/
  | advance
  /-- The cursor was moved: run the statement it is at. -/
  | enter
  deriving DecidableEq, Inhabited

/-- **A statement as an action sees it**: as written, and with its placeholders filled in. -/
structure Instruction (σ : Type := World) where
  /-- The statement as written. -/
  statement : Statement σ
  /-- The text, filled in; empty for a record. -/
  text : String
  /-- The words of the text. -/
  words : List String

namespace Instruction

variable {σ : Type}

/-- The instruction of a line that reads as `text`. -/
def ofText (statement : Statement σ) (text : String) : Instruction σ :=
  ⟨statement, text, Text.words text⟩

/-- The instruction of a record. -/
def ofRecord (statement : Statement σ) : Instruction σ := ⟨statement, "", []⟩

/-- The word at a place. -/
def word? (i : Instruction σ) (place : Nat) : Option String := i.words[place]?

/-- The words from a place on, with single blanks between them. -/
def wordsFrom (i : Instruction σ) (place : Nat) : String := Text.join " " (i.words.drop place)

/-- The fields of a record. -/
def fields? (i : Instruction σ) : Option (Fields Json) := i.statement.asRecord?

/-- What is left after as many leading characters as take `size` bytes; none when `size` falls
inside a character or beyond the end. -/
def dropBytes? : Nat → List Char → Option (List Char)
  | 0, cs => some cs
  | _ + 1, [] => none
  | size + 1, c :: cs =>
    if c.utf8Size ≤ size + 1 then dropBytes? (size + 1 - c.utf8Size) cs else none

/-- **The text after its first word**, with its own spacing.  The first word is passed over by its
length in bytes, so that a list of words from elsewhere may leave nothing. -/
def body (i : Instruction σ) : String :=
  match i.words with
  | [] => ""
  | first :: _ =>
    match dropBytes? first.utf8ByteSize (Text.trimStart i.text).toList with
    | some rest => Text.trimStart (String.ofList rest)
    | none => ""

end Instruction

/-- **One run of a statement**, forward or backward. -/
structure Invocation (σ : Type := World) where
  /-- Before running: refuse, or let it run. -/
  willApply : EStateM Fault σ Unit := pure ()
  /-- Run; `advance` is false when the statement is run again where the game rests. -/
  apply : (advance : Bool) → EStateM Fault σ (List Effect) := fun _ => pure []
  /-- After running: how to go on. -/
  didApply : (advance : Bool) → EStateM Fault σ Flow := fun _ => pure .advance
  /-- Before undoing: refuse, or let it be undone. -/
  willRevert : EStateM Fault σ Unit := pure ()
  /-- Undo. -/
  revert : EStateM Fault σ (List Effect) := pure []
  /-- After undoing: how to go on. -/
  didRevert : EStateM Fault σ Flow := pure .advance

instance {σ : Type} : Inhabited (Invocation σ) := ⟨{}⟩

/-- **What a kind of statement does.** -/
structure Action (σ : Type := World) where
  /-- The name of the action. -/
  id : String
  /-- Whether it handles a text of these words. -/
  handlesWords : List String → Bool := fun _ => false
  /-- Whether it handles a record of these fields. -/
  handlesRecord : Fields Json → Bool := fun _ => false
  /-- Make the invocation of a statement. -/
  invoke : Playbook σ → σ → Instruction σ → Except Fault (Invocation σ)
  /-- Register stacks and variables. -/
  setup : Playbook σ → EStateM Fault σ Unit := fun _ => pure ()
  /-- After the setup of every action. -/
  bind : Playbook σ → EStateM Fault σ Unit := fun _ => pure ()
  /-- After the binding of every action. -/
  init : Playbook σ → EStateM Fault σ Unit := fun _ => pure ()
  /-- Clear what belongs to one game. -/
  reset : Playbook σ → EStateM Fault σ Unit := fun _ => pure ()
  /-- A game starts. -/
  onStart : Playbook σ → EStateM Fault σ Unit := fun _ => pure ()
  /-- A saved game has been loaded. -/
  onLoad : Playbook σ → EStateM Fault σ Unit := fun _ => pure ()
  /-- Whether the player may continue; the guard may act on the wish instead. -/
  canProceed : Playbook σ → σ → Bool × σ := fun _ world => (true, world)
  /-- Whether the player may go back. -/
  canRevert : Playbook σ → σ → Bool × σ := fun _ world => (true, world)
  /-- The statement whose undoing leads out of the label, when the game is at the label's start. -/
  revertOrigin : Playbook σ → σ → Option (Statement σ) := fun _ _ => none

instance {σ : Type} : Inhabited (Action σ) := ⟨{ id := "", invoke := fun _ _ _ => .ok {} }⟩

/-- **The registered actions**, in the order in which they are asked. -/
structure Registry (σ : Type := World) where
  /-- The actions. -/
  actions : List (Action σ)
  deriving Inhabited

namespace Registry

variable {σ : Type}

/-- No actions. -/
def empty : Registry σ := ⟨[]⟩

/-- Add an action, to be asked last. -/
def register (registry : Registry σ) (action : Action σ) : Registry σ :=
  ⟨registry.actions ++ [action]⟩

/-- Remove the actions of a name. -/
def unregister (registry : Registry σ) (id : String) : Registry σ :=
  ⟨registry.actions.filter (·.id ≠ id)⟩

/-- The first action of a name. -/
def get? (registry : Registry σ) (id : String) : Option (Action σ) :=
  registry.actions.find? (·.id == id)

/-- The first action that handles a text of these words. -/
def forWords? (registry : Registry σ) (words : List String) : Option (Action σ) :=
  registry.actions.find? (·.handlesWords words)

/-- The first action that handles a record. -/
def forRecord? (registry : Registry σ) (fields : Fields Json) : Option (Action σ) :=
  registry.actions.find? (·.handlesRecord fields)

/-- The names of the actions, in order. -/
def ids (registry : Registry σ) : List String := registry.actions.map (·.id)

/-- One hook of every action, in order; the first fault ends it. -/
def each (registry : Registry σ) (hook : Action σ → EStateM Fault σ Unit) : EStateM Fault σ Unit :=
  registry.actions.forM hook

/-- **Ask one guard of every action.**  All are asked, whatever the first ones say. -/
def askAll (registry : Registry σ) (guard : Action σ → σ → Bool × σ) (world : σ) : Bool × σ :=
  registry.actions.foldl
    (fun (allowed, world) action =>
      let (ok, world) := guard action world
      (allowed && ok, world)) (true, world)

end Registry

end Narrative
