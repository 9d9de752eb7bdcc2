import Narrative.Action
import Narrative.Suggestion

/-!
# Action/Particles — `particles` and a preset

A statement starts the particle system of a preset and remembers itself on a stack; a variable holds
the statement of the running system, or an empty text.  Undoing stops the system and starts the one
before it again, and loading a game starts the one that was running.
-/

namespace Narrative.Particles

/-- The word that begins the statement. -/
def keyword : String := "particles"

/-- The stack of statements. -/
def stack : String := "particles"

/-- The variable that holds the running statement. -/
def runningVar : String := "particles"

/-- The effect of a statement, if it names a preset. -/
def effect? (presets : Fields Json) (statement : String) : Option Effect := do
  let name ← (Text.words statement)[1]?
  return .particles name (← Fields.get? presets name)

/-- The statement before the newest one and its effect, if it still names a preset. -/
def previous? (presets : Fields Json) (world : World) : Option (String × Effect) := do
  let statement ← (← (world.history.entries stack)[1]?).asText?
  return (statement, ← effect? presets statement)

/-- The report of a statement that names no preset. -/
def report (presets : Fields Json) (name statement : String) : Report :=
  let suggested := Suggestion.suggest name (Fields.keys presets) Suggestion.reportLimit
  { title := "Particles not found"
    message :=
      "The particles \"" ++ name ++ "\" could not be shown because no such preset is defined."
    details := ("Particles", name) :: Report.suggestionDetail suggested
      ++ [("Statement", statement)] }

/-- The preset must be defined. -/
def willApply (presets : Fields Json) (name statement : String) : Play Unit := fun world =>
  if Fields.has presets name then .ok () world
  else .error (.rejected ("unknown particles \"" ++ name ++ "\""))
    (world.report (report presets name statement))

/-- Start the system and remember the statement. -/
def apply (presets : Fields Json) (name statement : String) : Play (List Effect) := fun world =>
  match Fields.get? presets name with
  | none => .error .refused world
  | some config =>
    .ok [.particles name config]
      ((world.push stack (.str statement)).setVar runningVar (.str statement))

/-- Stop the system and start the one before it, if there was one. -/
def revert (previous : Option (String × Effect)) : Play (List Effect) := fun world =>
  let popped := world.pop stack
  match previous with
  | some (statement, effect) =>
    .ok [.stopParticles, effect] (popped.setVar runningVar (.str statement))
  | none => .ok [.stopParticles] (popped.setVar runningVar (.str ""))

/-- The invocation of a statement; without a second word the preset's name is empty. -/
def invocation (presets : Fields Json) (world : World) (i : Instruction) : Invocation :=
  let name := (i.word? 1).getD ""
  let statement := Text.trim i.text
  { willApply := willApply presets name statement
    apply := fun _ => apply presets name statement
    revert := revert (previous? presets world) }

/-- No system is running. -/
def clear (world : World) : World := world.setVar runningVar (.str "")

/-- Start the system that was running when the game was saved, if its preset is still there. -/
def onLoad (presets : Fields Json) : Play Unit := fun world =>
  match effect? presets ((world.state.getText? runningVar).getD "") with
  | some effect => .ok () (world.emit [effect])
  | none => .ok () world

/-- **The action of particles.** -/
def action (presets : Fields Json) : Action :=
  { id := "particles"
    handlesWords := fun words => words.head? == some keyword
    invoke := fun _ world i => .ok (invocation presets world i)
    setup := fun _ => Play.update fun world => clear (world.createStack stack)
    reset := fun _ => Play.update clear
    onLoad := fun _ => onLoad presets }

end Narrative.Particles
