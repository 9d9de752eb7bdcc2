import Narrative.Action.Page
import Narrative.Suggestion

/-!
# Action/Jump — `jump` and a label

A jump moves to the start of a label.  It remembers where it came from on one stack and the label it
entered on another, and drops the page.  Undoing it moves back to where it came from; if a jump
stands there, undoing goes on, and otherwise (a menu that jumped) the statement there is run again.
-/

namespace Narrative

/-- **Where a jump came from and where it went.** -/
structure JumpEntry where
  /-- The label it was made from. -/
  source : String
  /-- The label it entered. -/
  target : String
  /-- The step it was made from. -/
  step : Nat
  deriving DecidableEq, Inhabited

namespace JumpEntry

/-- Write an entry. -/
def toJson (entry : JumpEntry) : Json :=
  .obj [("from", .str entry.source), ("to", .str entry.target), ("step", .ofNat entry.step)]

/-- Read an entry. -/
def ofJson? (value : Json) : Option JumpEntry := do
  match ← value.slots ["from", "to", "step"] with
  | [source, target, step] =>
    return {
      source := ← Json.required Json.asText? source
      target := ← Json.required Json.asText? target
      step := ← Json.required Json.asNat64? step }
  | _ => none

end JumpEntry

namespace Jump

/-- The word that begins a jump. -/
def keyword : String := "jump"

/-- The stack of jump entries. -/
def stack : String := "jump"

/-- The stack of entered labels. -/
def labelStack : String := "label"

/-- The report of a jump to a label that does not exist. -/
def report (book : Playbook) (cursor : Cursor) (target line : String) : Report :=
  let suggested := Suggestion.suggest target book.labelNames Suggestion.reportLimit
  { title := "Label not found"
    message := "The game attempted to jump to \"" ++ target ++ "\" but it does not exist."
    details := ("Label", target) :: Report.suggestionDetail suggested
      ++ [("Statement", line), ("Cursor", cursor.text)] }

/-- The label must exist. -/
def willApply (book : Playbook) (target line : String) : Play Unit := fun world =>
  if book.hasLabel target then .ok () world
  else .error (.unresolvedTarget target) (world.report (report book world.cursor target line))

/-- Remember where the jump comes from, move, drop the page and remember the label. -/
def apply (target : String) : Play (List Effect) := fun world =>
  let entry : JumpEntry := ⟨world.cursor.label, target, world.cursor.step⟩
  let moved := (world.push stack entry.toJson).moveTo (Cursor.start target)
  .ok [.clearText] ((Page.leave moved).push labelStack (.str target))

/-- Move back to where the newest jump came from. -/
def revert : Play (List Effect) := fun world =>
  match world.history.peek? stack with
  | none => .error (.rejected "no jump to revert") world
  | some value =>
    let popped := world.pop stack
    match JumpEntry.ofJson? value with
    | none => .error .invalidScript popped
    | some entry =>
      let moved := (popped.pop labelStack).moveTo ⟨entry.source, entry.step⟩
      .ok [.clearText] (Page.leave moved)

/-- Go on undoing if a jump stands at the cursor. -/
def didRevert (book : Playbook) : Play Flow := fun world =>
  match (book.current? world).bind Statement.asText? with
  | none => .ok .enter world
  | some line =>
    match book.substitute world line with
    | .error fault => .error fault world
    | .ok text => .ok (if Text.firstWord? text = some keyword then .advance else .enter) world

/-- The jump of an instruction; without a second word its label is empty. -/
def invocation (book : Playbook) (i : Instruction) : Invocation :=
  let target := (i.word? 1).getD ""
  { willApply := willApply book target i.text
    apply := fun _ => apply target
    didApply := fun _ => pure .enter
    revert := revert
    didRevert := didRevert book }

/-- At the start of a label that the newest jump entered, undoing that jump leads out of it. -/
def revertOrigin (world : World) : Option Statement :=
  if world.cursor.step ≠ 0 then none
  else match (world.history.peek? stack).bind JumpEntry.ofJson? with
    | some entry =>
      if entry.target = world.cursor.label then some (.text ("jump " ++ entry.target)) else none
    | none => none

/-- **The action of jumps.** -/
def action : Action :=
  { id := "jump"
    handlesWords := fun words => words.head? == some keyword
    invoke := fun book _ i => .ok (invocation book i)
    setup := fun _ => Play.update fun world => (world.createStack labelStack).createStack stack
    revertOrigin := fun _ world => revertOrigin world }

end Jump

end Narrative
