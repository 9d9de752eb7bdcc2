import Narrative.Run

/-!
# Rewind — going back through a script

Going back undoes the statement before the cursor; at the start of a label it undoes the statement
that led there, which an action names from what it remembers.  A statement that asks to go on is
followed by the one before it, and one that asks to enter has the statement at the cursor run again.
With nothing to undo, the statement at the cursor is run again.

When undoing fails, the cursor returns to where that last attempt began, the statement there is run
again in place, and the fault is the answer.
-/

namespace Narrative.Rewind

/-- The statement that leads out of the label, from the first action that names one. -/
def origin? (book : Playbook) (registry : Registry) (world : World) : Option Statement :=
  registry.actions.findSome? fun action => action.revertOrigin book world

/-- **The statement to undo.** -/
def target? (book : Playbook) (registry : Registry) (world : World) : Option Statement :=
  if 1 ≤ world.cursor.step then book.statement? (world.cursor.atStep (world.cursor.step - 1))
  else origin? book registry world

/-- The three stages of going back. -/
def stages (invocation : Invocation) : Play Flow := do
  invocation.willRevert
  let effects ← invocation.revert
  Play.emit effects
  invocation.didRevert

/-- **Undo one statement.** -/
def undo (book : Playbook) (registry : Registry) (statement : Statement) : Play Flow := fun world =>
  match registry.invoke book world statement with
  | .error fault => .error fault world
  | .ok invocation => stages invocation world

/-- After undoing from `origin`: unless the statement moved the cursor, go one step back. -/
def settle (origin : Cursor) (world : World) : World :=
  if world.cursor = origin ∧ 1 ≤ origin.step then world.moveTo (origin.atStep (origin.step - 1))
  else world

/-- Return to `origin` and show the statement there again, whatever comes of that. -/
def compensate (book : Playbook) (registry : Registry) (origin : Cursor) (world : World) : World :=
  match Run.runInPlace book registry (world.moveTo origin) with
  | .ok _ after => after
  | .error _ after => after

/-- **Go back**, undoing at most `allowed` statements. -/
def back (book : Playbook) (registry : Registry) : Nat → Play Unit
  | 0 => fun world => .error (.chainLimit book.settings.maxChain world.cursor) world
  | allowed + 1 => fun world =>
    match target? book registry world with
    | none => Run.runInPlace book registry world
    | some statement =>
      match undo book registry statement world with
      | .error fault after => .error fault (compensate book registry world.cursor after)
      | .ok flow after =>
        let settled := settle world.cursor after
        match flow with
        | .wait => .ok () settled
        | .enter => Run.runInPlace book registry settled
        | .advance => back book registry allowed settled

/-- **Go one step back.** -/
def revert (book : Playbook) (registry : Registry) : Play Unit :=
  back book registry book.settings.maxChain

end Narrative.Rewind
