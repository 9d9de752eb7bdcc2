import Narrative.Rewind

/-!
# Engine — hooks that may change anything

`Run` and `Rewind` go through a script by hooks and callbacks that are computations on the world.
A host may lend them more than that: the script, the settings, the preferences and the actions
themselves.  All these are then parts of one state, with the world and whatever else hooks remember,
and an **engine** reads them anew whenever it needs them.

The limit on a chain can then move while the chain runs, so that there may be no end to it: what a
call comes to is a relation.  It is kept together with the call's **deeds**, the statements that it
ran or undid.  Where hooks leave all but the world alone, this is what `Run` and `Rewind` do
(`Proofs/Engine`).
-/

namespace Narrative

/-- **The action that a statement goes to.**  A callback goes to none. -/
def Registry.handler? {σ : Type} (registry : Registry σ) (book : Playbook σ) (world : World) :
    Statement σ → Option (Action σ)
  | .text line =>
    match book.substitute world line with
    | .ok text => registry.forWords? (Text.words text)
    | .error _ => none
  | .record fields => registry.forRecord? fields
  | .callback _ => none

/-- **One statement, run or undone**: where it stands, what it is, and the action that it goes
to. -/
structure Deed (σ : Type := World) where
  /-- The position of the statement. -/
  cursor : Cursor
  /-- The statement. -/
  statement : Statement σ
  /-- The action. -/
  action : Option (Action σ)

/-- A statement at a position, read in a world. -/
def Deed.of {σ : Type} (book : Playbook σ) (registry : Registry σ) (world : World)
    (cursor : Cursor) (statement : Statement σ) : Deed σ :=
  ⟨cursor, statement, registry.handler? book world statement⟩

/-- **An engine**: what is read of a state that holds all that hooks may change. -/
structure Engine (σ : Type) where
  /-- The script, the settings and the preferences. -/
  book : σ → Playbook σ
  /-- The actions. -/
  registry : σ → Registry σ
  /-- The world. -/
  world : σ → World
  /-- The state with another world. -/
  withWorld : σ → World → σ
  /-- The world that was put in is there. -/
  world_withWorld : ∀ s new, world (withWorld s new) = new
  /-- Another world leaves the script, the settings and the preferences. -/
  book_withWorld : ∀ s new, book (withWorld s new) = book s
  /-- Another world leaves the actions. -/
  registry_withWorld : ∀ s new, registry (withWorld s new) = registry s

attribute [simp] Engine.world_withWorld Engine.book_withWorld Engine.registry_withWorld

namespace Engine

variable {σ : Type} (engine : Engine σ)

/-- The engine of a script and actions that stay fixed, for hooks on the world. -/
def fixed (book : Playbook) (registry : Registry) : Engine World where
  book _ := book
  registry _ := registry
  world := id
  withWorld _ new := new
  world_withWorld _ _ := rfl
  book_withWorld _ _ := rfl
  registry_withWorld _ _ := rfl

/-- Change the world. -/
def change (update : World → World) (s : σ) : σ :=
  engine.withWorld s (update (engine.world s))

@[simp] theorem world_change (update : World → World) (s : σ) :
    engine.world (engine.change update s) = update (engine.world s) :=
  engine.world_withWorld s _

@[simp] theorem book_change (update : World → World) (s : σ) :
    engine.book (engine.change update s) = engine.book s :=
  engine.book_withWorld s _

@[simp] theorem registry_change (update : World → World) (s : σ) :
    engine.registry (engine.change update s) = engine.registry s :=
  engine.registry_withWorld s _

/-- Where a state is. -/
def cursor (s : σ) : Cursor := (engine.world s).cursor

/-- The most statements that a call may run or undo. -/
def limit (s : σ) : Nat := (engine.book s).settings.maxChain

/-- A statement at a position, as it is read. -/
def deed (s : σ) (cursor : Cursor) (statement : Statement σ) : Deed σ :=
  Deed.of (engine.book s) (engine.registry s) (engine.world s) cursor statement

/-! ## One statement -/

/-- **Make the invocation of a statement.**  A callback has none. -/
def invoke (s : σ) (statement : Statement σ) : Except Fault (Invocation σ) :=
  match statement with
  | .text line => do
    let text ← (engine.book s).substitute (engine.world s) line
    let instruction := Instruction.ofText statement text
    match (engine.registry s).forWords? instruction.words with
    | none => .error (.noMatch text)
    | some action => action.invoke (engine.book s) s instruction
  | .record fields =>
    match (engine.registry s).forRecord? fields with
    | none => .error (.noMatch statement.describe)
    | some action => action.invoke (engine.book s) s (Instruction.ofRecord statement)
  | .callback _ => .error (.irreversible (engine.cursor s))

/-- Queue effects for the host. -/
def emit (effects : List Effect) : EStateM Fault σ Unit := fun s =>
  .ok () (engine.change (·.emit effects) s)

/-- Run a callback; while it runs, the player is kept out. -/
def callback (run : EStateM Fault σ Unit) : EStateM Fault σ Flow := fun s =>
  match run (engine.change (·.withGlobals ({ · with block := true })) s) with
  | .ok _ after => .ok .advance (engine.change (·.withGlobals ({ · with block := false })) after)
  | .error fault after =>
    .error fault (engine.change (·.withGlobals ({ · with block := false })) after)

/-- The three stages of going forward. -/
def stages (invocation : Invocation σ) (advance : Bool) : EStateM Fault σ Flow := do
  invocation.willApply
  let effects ← invocation.apply advance
  engine.emit effects
  invocation.didApply advance

/-- **Run one statement.** -/
def perform (statement : Statement σ) (advance : Bool) : EStateM Fault σ Flow :=
  match statement with
  | .callback run => engine.callback run
  | _ => fun s =>
    match engine.invoke s statement with
    | .error fault => .error fault s
    | .ok invocation => engine.stages invocation advance s

/-- The three stages of going back. -/
def stagesBack (invocation : Invocation σ) : EStateM Fault σ Flow := do
  invocation.willRevert
  let effects ← invocation.revert
  engine.emit effects
  invocation.didRevert

/-- **Undo one statement.** -/
def undo (statement : Statement σ) : EStateM Fault σ Flow := fun s =>
  match engine.invoke s statement with
  | .error fault => .error fault s
  | .ok invocation => engine.stagesBack invocation s

/-! ## Going forward -/

/-- The statement at the cursor, if there is one. -/
def current? (s : σ) : Option (Statement σ) := (engine.book s).current? (engine.world s)

/-- The statement at the cursor. -/
def current : EStateM Fault σ (Statement σ) := fun s =>
  match engine.current? s with
  | some statement => .ok statement s
  | none => .error (.noStatement (engine.cursor s)) s

/-- One step on, not beyond the end of the label. -/
def step (s : σ) : σ :=
  if (engine.cursor s).step < (engine.book s).labelLength (engine.cursor s).label then
    engine.change (·.moveTo ((engine.cursor s).atStep ((engine.cursor s).step + 1))) s
  else s

/-- One step on, and the statement there. -/
def stepForward : EStateM Fault σ (Statement σ) := fun s => engine.current (engine.step s)

/-- **One statement of a chain**: run it, and fetch the one that is due after it, if any. -/
def link (statement : Statement σ) (advance : Bool) :
    EStateM Fault σ (Option (Statement σ)) := do
  match ← engine.perform statement advance with
  | .wait => return none
  | .advance => if advance then return some (← engine.stepForward) else return none
  | .enter => return some (← engine.current)

/-- **What a chain comes to**, and what it runs, when so many statements were run before. -/
inductive Runs : Nat → Statement σ → Bool → σ → List (Deed σ) →
    EStateM.Result Fault σ Unit → Prop
  | cut {count : Nat} {statement : Statement σ} {advance : Bool} {s : σ}
      (full : engine.limit s ≤ count) :
      Runs count statement advance s [] (.error (.chainLimit (engine.limit s) (engine.cursor s)) s)
  | failed {count : Nat} {statement : Statement σ} {advance : Bool} {s after : σ} {fault : Fault}
      (room : count < engine.limit s)
      (linked : engine.link statement advance s = .error fault after) :
      Runs count statement advance s [engine.deed s (engine.cursor s) statement]
        (.error fault after)
  | ends {count : Nat} {statement : Statement σ} {advance : Bool} {s after : σ}
      (room : count < engine.limit s) (linked : engine.link statement advance s = .ok none after) :
      Runs count statement advance s [engine.deed s (engine.cursor s) statement] (.ok () after)
  | goes {count : Nat} {statement next : Statement σ} {advance : Bool} {s mid : σ}
      {deeds : List (Deed σ)} {result : EStateM.Result Fault σ Unit}
      (room : count < engine.limit s)
      (linked : engine.link statement advance s = .ok (some next) mid)
      (rest : Runs (count + 1) next true mid deeds result) :
      Runs count statement advance s (engine.deed s (engine.cursor s) statement :: deeds) result

/-- **What a call comes to** that fetches a statement and runs it, with what follows. -/
inductive Fetches (fetch : EStateM Fault σ (Statement σ)) (advance : Bool) (s : σ) :
    List (Deed σ) → EStateM.Result Fault σ Unit → Prop
  | lost {fault : Fault} {after : σ} (fetched : fetch s = .error fault after) :
      Fetches fetch advance s [] (.error fault after)
  | runs {statement : Statement σ} {mid : σ} {deeds : List (Deed σ)}
      {result : EStateM.Result Fault σ Unit} (fetched : fetch s = .ok statement mid)
      (runs : engine.Runs 0 statement advance mid deeds result) :
      Fetches fetch advance s deeds result

/-! ## Going back -/

/-- **The statement to undo**, before the cursor or, at the start of a label, by what the actions
remember. -/
def target? (s : σ) : Option (Statement σ) :=
  if 1 ≤ (engine.cursor s).step then
    (engine.book s).statement? ((engine.cursor s).atStep ((engine.cursor s).step - 1))
  else (engine.registry s).actions.findSome? fun action => action.revertOrigin (engine.book s) s

/-- After undoing from `origin`: unless the statement moved the cursor, go one step back. -/
def settle (origin : Cursor) (s : σ) : σ :=
  if engine.cursor s = origin ∧ 1 ≤ origin.step then
    engine.change (·.moveTo (origin.atStep (origin.step - 1))) s
  else s

/-- What is undone, where it stands. -/
def deedBack (s : σ) (statement : Statement σ) : Deed σ :=
  engine.deed s ((engine.cursor s).atStep ((engine.cursor s).step - 1)) statement

/-- **What going back comes to**, and what it undoes, when so many statements were undone before.
A statement that is run again, in place, is no deed. -/
inductive Backs : Nat → σ → List (Deed σ) → EStateM.Result Fault σ Unit → Prop
  | cut {count : Nat} {s : σ} (full : engine.limit s ≤ count) :
      Backs count s [] (.error (.chainLimit (engine.limit s) (engine.cursor s)) s)
  | nothing {count : Nat} {s : σ} {deeds : List (Deed σ)}
      {result : EStateM.Result Fault σ Unit} (room : count < engine.limit s)
      (found : engine.target? s = none)
      (again : engine.Fetches engine.current false s deeds result) :
      Backs count s [] result
  | failed {count : Nat} {s left : σ} {statement : Statement σ} {fault : Fault}
      {deeds : List (Deed σ)} {result : EStateM.Result Fault σ Unit}
      (room : count < engine.limit s) (found : engine.target? s = some statement)
      (undone : engine.undo statement s = .error fault left)
      (again : engine.Fetches engine.current false
        (engine.change (·.moveTo (engine.cursor s)) left) deeds result) :
      Backs count s [engine.deedBack s statement] (.error fault (Result.left result))
  | wait {count : Nat} {s after : σ} {statement : Statement σ}
      (room : count < engine.limit s) (found : engine.target? s = some statement)
      (undone : engine.undo statement s = .ok .wait after) :
      Backs count s [engine.deedBack s statement]
        (.ok () (engine.settle (engine.cursor s) after))
  | enter {count : Nat} {s after : σ} {statement : Statement σ} {deeds : List (Deed σ)}
      {result : EStateM.Result Fault σ Unit} (room : count < engine.limit s)
      (found : engine.target? s = some statement)
      (undone : engine.undo statement s = .ok .enter after)
      (again : engine.Fetches engine.current false (engine.settle (engine.cursor s) after) deeds
        result) :
      Backs count s [engine.deedBack s statement] result
  | advance {count : Nat} {s after : σ} {statement : Statement σ} {deeds : List (Deed σ)}
      {result : EStateM.Result Fault σ Unit} (room : count < engine.limit s)
      (found : engine.target? s = some statement)
      (undone : engine.undo statement s = .ok .advance after)
      (rest : Backs (count + 1) (engine.settle (engine.cursor s) after) deeds result) :
      Backs count s (engine.deedBack s statement :: deeds) result

/-! ## Calls -/

/-- A game is in progress. -/
def setPlaying (s : σ) : σ := engine.change (·.withGlobals ({ · with playing := true })) s

/-- One hook of every action that is registered, in order; the first fault ends it. -/
def each (hook : Action σ → Playbook σ → EStateM Fault σ Unit) : EStateM Fault σ Unit :=
  fun s => (engine.registry s).each (fun action s => hook action (engine.book s) s) s

/-- **What starting comes to**, and what it runs. -/
inductive Starts (s : σ) : List (Deed σ) → EStateM.Result Fault σ Unit → Prop
  | refused {fault : Fault} {after : σ}
      (told : engine.each Action.onStart (engine.setPlaying s) = .error fault after) :
      Starts s [] (.error fault after)
  | runs {mid : σ} {deeds : List (Deed σ)} {result : EStateM.Result Fault σ Unit}
      (told : engine.each Action.onStart (engine.setPlaying s) = .ok () mid)
      (runs : engine.Fetches engine.current true mid deeds result) : Starts s deeds result

/-- **What going one step on comes to**, and what it runs. -/
def Nexts (s : σ) (deeds : List (Deed σ)) (result : EStateM.Result Fault σ Unit) : Prop :=
  engine.Fetches engine.stepForward true s deeds result

/-- **What going one step back comes to**, and what it undoes. -/
def Reverts (s : σ) (deeds : List (Deed σ)) (result : EStateM.Result Fault σ Unit) : Prop :=
  engine.Backs 0 s deeds result

/-- **A call made so many times**, each time with success, and its deeds. -/
inductive Repeats (call : σ → List (Deed σ) → EStateM.Result Fault σ Unit → Prop) :
    Nat → σ → List (Deed σ) → σ → Prop
  | zero (s : σ) : Repeats call 0 s [] s
  | succ {count : Nat} {s mid t : σ} {deeds more : List (Deed σ)}
      (made : call s deeds (.ok () mid)) (rest : Repeats call count mid more t) :
      Repeats call (count + 1) s (deeds ++ more) t

end Engine

end Narrative
