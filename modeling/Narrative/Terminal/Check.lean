import Narrative.Terminal.StoryFile
import Narrative.Terminal.Render
import Narrative.Terminal.Outcome

/-!
# Terminal/Check — finding mistakes in a story without playing it

For each language the start label has to exist, and every command that a statement can run, itself
or by an option of a menu, has to name a label or a preset that exists.  A name that holds a
placeholder is not looked at, since it is only known in play.
-/

namespace Narrative.Terminal

/-- The commands that a statement can run: its text, or the texts that options of a menu run. -/
def commandsOf : Statement → List String
  | .text line => [line]
  | .record fields =>
    match (Fields.get? fields Choice.fieldName).bind Json.asFields? with
    | some options => (Fields.values options).filterMap fun option =>
        (option.field? "Do").bind Json.asText?
    | none => []
  | .callback _ => []

/-- A problem with a name, and the names that may have been meant. -/
def unknownName (message name : String) (known : List String) : String :=
  let suggested := Suggestion.suggest name known Suggestion.reportLimit
  if suggested.isEmpty then message
  else message ++ " (did you mean " ++ Text.join ", " suggested ++ "?)"

/-- Whether a name is only known in play. -/
def isOpen (name : String) : Bool := Text.occurs Template.openMark name.toList

/-- **The problem of a command**, if it has one; `place` tells where it stands. -/
def commandProblem? (labels presets : List String) (place command : String) : Option String :=
  match Text.words command with
  | word :: name :: _ =>
    if isOpen name then none
    else if word = Jump.keyword then
      if labels.contains name then none
      else some (unknownName (place ++ ": label \"" ++ name ++ "\" does not exist") name labels)
    else if word = Particles.keyword then
      if presets.contains name then none
      else
        some (unknownName (place ++ ": particles \"" ++ name ++ "\" are not defined") name presets)
    else none
  | _ => none

/-- The problems of a label, whose statements are numbered from `step` on. -/
def labelProblems (labels presets : List String) (within label : String) :
    Nat → List Statement → List String
  | _, [] => []
  | step, statement :: rest =>
    (commandsOf statement).filterMap
        (commandProblem? labels presets (within ++ (Cursor.mk label step).text))
      ++ labelProblems labels presets within label (step + 1) rest

/-- **The problems of a story in one language.** -/
def languageProblems (story : Story) (script : Script) (language : String) : List String :=
  let within := if language.isEmpty then "" else "[" ++ language ++ "] "
  let labels := script.labelNames language
  let start := story.settings.startLabel
  let missing :=
    if labels.contains start then []
    else [within ++ "start label \"" ++ start ++ "\" does not exist"]
  let body := ((script.labels? language).getD Table.empty).entries
  missing ++ body.flatMap fun (label, statements) =>
    labelProblems labels (Fields.keys story.particles) within label 0 statements

/-- The languages to check; a script for one language has one without a name. -/
def checkedLanguages (script : Script) : List String :=
  if script.isMulti then script.languages else [""]

/-- **The problems of a story.** -/
def problems (story : Story) (script : Script) : List String :=
  (checkedLanguages script).flatMap (languageProblems story script)

/-- The sets of statements of all languages. -/
def allLabels (script : Script) : List (List Statement) :=
  (checkedLanguages script).flatMap fun language =>
    ((script.labels? language).getD Table.empty).values

/-- A count with a noun, in the plural unless the count is one. -/
def counted (count : Nat) (noun : String) : String :=
  Text.Numeral.text count ++ " " ++ noun ++ (if count = 1 then "" else "s")

/-- **Check a story** and write what was found. -/
def check (color : Bool) (path : String) (text : Option String) : Outcome :=
  match (do let story ← readStory path text; return (story, ← readScript story)) with
  | .error message => Outcome.fail {} message
  | .ok (story, script) =>
    let found := problems story script
    if found.isEmpty then
      let sets := allLabels script
      let statements := sets.foldl (fun count statements => count + statements.length) 0
      Outcome.write {} ("  All checks passed for '" ++ path ++ "'.\n  "
        ++ Text.Numeral.text sets.length ++ " labels, "
        ++ Text.Numeral.text statements ++ " statements\n")
    else
      let lines := found.map fun problem =>
        "  " ++ paint color (bold ++ ";" ++ yellow) "problem:" ++ " " ++ problem ++ "\n"
      Outcome.fail { errors := String.join lines } (counted found.length "problem" ++ " found")

end Narrative.Terminal
