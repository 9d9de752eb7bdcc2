import Std.Time.Zoned
import Narrative.Terminal.Session

/-!
# Main — the program

The program plays a story, checks one, or lists the slots of a directory.  What it does is decided
by `Terminal`; here files are read and written, lines are asked for, and time passes.  While a story
is played, the directory of its saves is held as a store, and what changed in the store is written
back after every step.
-/

namespace Narrative.Main

open Terminal

/-! ## Files -/

/-- The text of a file, if it can be read as text. -/
def readText (path : String) : IO (Option String) := do
  match ← (IO.FS.readFile path).toBaseIO with
  | .ok text => return some text
  | .error _ => return none

/-- What stands in a directory.  A file that cannot be read is of no more use than a directory. -/
def readFolder (directory : String) : IO DirStore := do
  let mut entries : Table DirEntry := Table.empty
  for entry in ← ((← IO.currentDir) / directory).readDir do
    let text ← if ← entry.path.isDir then pure none else readText entry.path.toString
    let found := match text with
      | some text => DirEntry.file text
      | none => DirEntry.folder
    entries := entries.insert entry.fileName found
  return { entries, lead := directory.utf8ByteSize + 1 }

/-- Make a directory and read what stands in it; none if that fails. -/
def openFolder (directory : String) : IO (Option DirStore) := do
  match ← (do IO.FS.createDirAll directory; readFolder directory : IO DirStore).toBaseIO with
  | .ok store => return some store
  | .error _ => return none

/-- Write to a directory what a store has come to hold, and delete what it holds no more. -/
def writeChanges (directory : String) (before after : DirStore) : IO Unit := do
  let folder := (← IO.currentDir) / directory
  for (name, entry) in after.entries.entries do
    if before.entries.get? name ≠ some entry then
      if let .file text := entry then IO.FS.writeFile (folder / name) text
  for name in before.entries.keys do
    unless after.entries.has name do IO.FS.removeFile (folder / name)

/-! ## Time and color -/

/-- A number with at least as many digits as asked for. -/
def padded (digits n : Nat) : String :=
  let text := Text.Numeral.text n
  String.ofList (List.replicate (digits - text.length) '0') ++ text

/-- The local date and time, as saves are dated. -/
def date : IO String := do
  let now ← Std.Time.PlainDateTime.now
  let day := Text.join "-" [padded 4 now.date.year.toInt.toNat, padded 2 now.date.month.val.toNat,
    padded 2 now.date.day.val.toNat]
  let time := Text.join ":" [padded 2 now.time.hour.val.toNat, padded 2 now.time.minute.val.toNat,
    padded 2 now.time.second.val.toNat]
  return day ++ " " ++ time

/-- The present moment. -/
def moment : IO Moment := return ⟨← IO.monoMsNow, ← date⟩

/-- Whether to write colors: to a terminal, unless the environment says otherwise. -/
def wantsColor : IO Bool := do
  let refused := (← IO.getEnv "NO_COLOR").isSome
  let forced := (← IO.getEnv "CLICOLOR_FORCE").any (· ≠ "0")
  let allowed := (← IO.getEnv "CLICOLOR").all (· ≠ "0")
  if refused then return false
  return forced || (allowed && (← (← IO.getStdout).isTty))

/-! ## Commands -/

/-- Write what a command leaves behind. -/
def finish (outcome : Outcome) : IO UInt32 := do
  IO.print outcome.output
  IO.eprint outcome.errors
  return outcome.code.toUInt32

/-- Play on from a step until the session is over or the input ends. -/
partial def playOn (directory : String) (before : DirStore) (step : Step) : IO Unit := do
  writeChanges directory before step.session.store
  IO.print step.shown
  (← IO.getStdout).flush
  let after := step.session.store
  match step.pace with
  | .over => return
  | .wait delay =>
    IO.sleep (min delay 1000000).toUInt32
    playOn directory after (step.session.playOn (← moment))
  | .prompt =>
    IO.print promptText
    (← IO.getStdout).flush
    let line ← (← IO.getStdin).getLine
    unless line.isEmpty do playOn directory after (step.session.answer (← moment) line)

/-- Play a story. -/
def play (color : Bool) (story directory : String) (options : PlayOptions) : IO UInt32 := do
  match Session.gameOf options story (← readText story) with
  | .error message => finish (Outcome.fail {} message)
  | .ok game =>
    match ← openFolder directory with
    | none => finish (Outcome.fail {} (cannotOpen directory))
    | some store =>
      match Session.preparePreferences options game store with
      | .error message => finish (Outcome.fail {} message)
      | .ok (game, prepared) =>
        playOn directory store (Session.begin options color story game prepared (← moment))
        return 0

/-- How the program is called. -/
def usage : String :=
  "usage: narrative play STORY [--saves DIR] [--label LABEL] [--language LANGUAGE] [--auto SECS]\n"
    ++ "       narrative check STORY\n"
    ++ "       narrative saves [--saves DIR] [--auto]\n"

/-- Do what the arguments ask for. -/
def run (arguments : List String) : IO UInt32 := do
  let color ← wantsColor
  match Command.ofArguments? arguments with
  | none => finish { code := Outcome.usageCode, errors := usage }
  | some (.check story) => finish (check color story (← readText story))
  | some (.saves directory auto) =>
    match ← openFolder directory with
    | none => finish (Outcome.fail {} (cannotOpen directory))
    | some store => finish (listing store auto)
  | some (.play story directory options) => play color story directory options

end Narrative.Main

/-- **The program.** -/
def main (arguments : List String) : IO UInt32 := Narrative.Main.run arguments
