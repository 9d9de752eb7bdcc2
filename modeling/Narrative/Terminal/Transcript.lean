import Narrative.Terminal.Disk
import Narrative.Terminal.Session

/-!
# Terminal/Transcript — a whole run of the program on given input

When all input is known beforehand, a run is a function of the arguments, the input and the files.
Time then passes only while the game plays by itself, and it passes exactly as long as it waits.
-/

namespace Narrative.Terminal

/-- The lines of an input; what follows the last line end is a line unless it is empty. -/
def inputLines (input : String) : List String :=
  let lines := Text.splitAt input '\n'
  if lines.getLast? = some "" then lines.dropLast else lines

/-- **Play on** from a step, for at most `patience` steps: what is written, and the last session. -/
def playThrough (date : String) :
    (patience : Nat) → (now : Nat) → Step → List String → String × Session
  | 0, _, step, _ => (step.shown, step.session)
  | patience + 1, now, step, lines =>
    match step.pace with
    | .over => (step.shown, step.session)
    | .wait delay =>
      let next := step.session.playOn ⟨now + delay, date⟩
      let (shown, session) := playThrough date patience (now + delay) next lines
      (step.shown ++ shown, session)
    | .prompt =>
      match lines with
      | [] => (step.shown ++ promptText, step.session)
      | line :: rest =>
        let next := step.session.answer ⟨now, date⟩ line
        let (shown, session) := playThrough date patience now next rest
        (step.shown ++ promptText ++ shown, session)

/-- How many steps a run is followed for. -/
def patience : Nat := 1000000

/-- Play a story. -/
def runPlay (color : Bool) (date input : String) (story directory : String) (options : PlayOptions)
    (disk : Disk) : Outcome × Disk :=
  match Session.gameOf options story (disk.fileText? story) with
  | .error message => (Outcome.fail {} message, disk)
  | .ok game =>
    match disk.openStore? directory with
    | none => (Outcome.fail {} (cannotOpen directory), disk)
    | some (disk, place, store) =>
      match Session.preparePreferences options game store with
      | .error message => (Outcome.fail {} message, disk)
      | .ok (game, store) =>
        let first := Session.begin options color story game store ⟨0, date⟩
        let (shown, session) := playThrough date patience 0 first (inputLines input)
        (Outcome.write {} shown, disk.putStore place session.store)

/-- **A whole run of the program.** -/
def runAll (color : Bool) (date input : String) (arguments : List String) (disk : Disk) :
    Outcome × Disk :=
  match Command.ofArguments? arguments with
  | none => ({ code := Outcome.usageCode }, disk)
  | some (.check story) => (check color story (disk.fileText? story), disk)
  | some (.saves directory auto) =>
    match disk.openStore? directory with
    | none => (Outcome.fail {} (cannotOpen directory), disk)
    | some (disk, _, store) => (listing store auto, disk)
  | some (.play story directory options) => runPlay color date input story directory options disk

end Narrative.Terminal
