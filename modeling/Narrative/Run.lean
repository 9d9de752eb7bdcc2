import Narrative.Action

/-!
# Run — going forward through a script

Running a statement fills in its placeholders, finds the first action that handles it, and takes its
invocation through the three stages.  A statement that asks to go on is followed by the next one in
the same call: the **chain** ends when a statement waits, fails, or is not there, and it is cut when
it would come to run more statements than the settings allow.  The number of statements still
allowed is what the recursion is on.
-/

namespace Narrative

/-- **Make the invocation of a statement.**  A callback has none. -/
def Registry.invoke (registry : Registry) (book : Playbook) (world : World)
    (statement : Statement) : Except Fault Invocation :=
  match statement with
  | .text line => do
    let text ← book.substitute world line
    let instruction := Instruction.ofText statement text
    match registry.forWords? instruction.words with
    | none => .error (.noMatch text)
    | some action => action.invoke book world instruction
  | .record fields =>
    match registry.forRecord? fields with
    | none => .error (.noMatch statement.describe)
    | some action => action.invoke book world (Instruction.ofRecord statement)
  | .callback _ => .error (.irreversible world.cursor)

namespace Run

/-- The statement at the cursor. -/
def current (book : Playbook) : Play Statement := fun world =>
  match book.current? world with
  | some statement => .ok statement world
  | none => .error (.noStatement world.cursor) world

/-- One step on, not beyond the end of the label, and the statement there. -/
def stepForward (book : Playbook) : Play Statement := fun world =>
  let moved :=
    if world.cursor.step < book.labelLength world.cursor.label then
      world.moveTo (world.cursor.atStep (world.cursor.step + 1))
    else world
  current book moved

/-- Run a callback; while it runs, the player is kept out. -/
def callback (run : Play Unit) : Play Flow := fun world =>
  match run (world.withGlobals ({ · with block := true })) with
  | .ok _ after => .ok .advance (after.withGlobals ({ · with block := false }))
  | .error fault after => .error fault (after.withGlobals ({ · with block := false }))

/-- The three stages of going forward. -/
def stages (invocation : Invocation) (advance : Bool) : Play Flow := do
  invocation.willApply
  let effects ← invocation.apply advance
  Play.emit effects
  invocation.didApply advance

/-- **Run one statement.** -/
def perform (book : Playbook) (registry : Registry) (statement : Statement) (advance : Bool) :
    Play Flow :=
  match statement with
  | .callback run => callback run
  | _ => fun world =>
    match registry.invoke book world statement with
    | .error fault => .error fault world
    | .ok invocation => stages invocation advance world

/-- **Run a statement and what follows it**, at most `allowed` statements in all. -/
def chain (book : Playbook) (registry : Registry) : Nat → Statement → Bool → Play Unit
  | 0, _, _ => fun world => .error (.chainLimit book.settings.maxChain world.cursor) world
  | allowed + 1, statement, advance => do
    match ← perform book registry statement advance with
    | .wait => pure ()
    | .advance =>
      if advance then chain book registry allowed (← stepForward book) true else pure ()
    | .enter => chain book registry allowed (← current book) true

/-- Run a statement and what follows it. -/
def run (book : Playbook) (registry : Registry) (statement : Statement) (advance : Bool) :
    Play Unit :=
  chain book registry book.settings.maxChain statement advance

/-- Run the statement at the cursor and what follows it. -/
def runCurrent (book : Playbook) (registry : Registry) : Play Unit := do
  run book registry (← current book) true

/-- Run the statement at the cursor again, where the game rests. -/
def runInPlace (book : Playbook) (registry : Registry) : Play Unit := do
  run book registry (← current book) false

/-- **Go one step on.** -/
def next (book : Playbook) (registry : Registry) : Play Unit := do
  run book registry (← stepForward book) true

end Run

end Narrative
