import Narrative.Game.Menu
import Narrative.Terminal.Arguments
import Narrative.Terminal.Listing

/-!
# Terminal/Session — playing a story in a terminal

A session answers one line of input at a time: it shows what the game produced, says how things
went, and tells the **pace**: ask for the next line, wait a while and play on by itself, or end.
Whole lines are printed at once, so every line counts as typed out after it was shown.
-/

namespace Narrative.Terminal

/-- **The time of a step**: a clock in milliseconds, and the date for saves. -/
structure Moment where
  /-- Milliseconds on a clock that never goes back. -/
  now : Nat
  /-- The date as it is written into saves. -/
  date : String

/-- **A story being played in a terminal.** -/
structure Session where
  /-- The game. -/
  game : Game
  /-- The directory of the saves. -/
  store : DirStore
  /-- Whether to write colors. -/
  color : Bool
  /-- When the game was last saved automatically. -/
  lastAutoSave : Nat

/-- **How a session goes on.** -/
inductive Pace where
  /-- Ask for a line. -/
  | prompt
  /-- Wait some milliseconds, then play on. -/
  | wait (delay : Nat)
  /-- End. -/
  | over
  deriving DecidableEq

/-- **A step of a session**: the session after it, what it wrote, and how to go on. -/
structure Step where
  /-- The session after the step. -/
  session : Session
  /-- What was written. -/
  shown : String
  /-- How to go on. -/
  pace : Pace

/-- What stands in front of every line of input. -/
def promptText : String := "> "

/-- The message for a directory of saves that cannot be made. -/
def cannotOpen (directory : String) : String :=
  "cannot open save directory " ++ directory ++ ": " ++ StoreFault.fileAccess.message

namespace Session

/-- A step that leaves the session alone and asks for the next line. -/
def stay (session : Session) (shown : String) : Step := ⟨session, shown, .prompt⟩

/-- Show the effects that wait, and count the line as typed out. -/
def showEffects (session : Session) : String × Session :=
  let (effects, game) := session.game.drainEffects
  (renderAll session.color effects, { session with game := game.finishTyping })

/-- Save automatically when it is time; a failure is passed over. -/
def autoSaveIfDue (session : Session) (moment : Moment) : Session :=
  let minutes := session.game.book.settings.autoSaveMinutes
  if minutes = 0 ∨ moment.now - session.lastAutoSave < 60000 * minutes then session
  else
    let session := { session with lastAutoSave := moment.now }
    match session.game.autoSave session.store moment.date with
    | .ok (_, game, store) => { session with game := game, store := store }
    | .error _ => session

/-- **Show what a turn came to.**  Where there is no statement left, the story ends. -/
def settle (session : Session) (moment : Moment) (fault : Option Fault) : Step :=
  let (shown, session) := session.showEffects
  match fault with
  | none => ⟨session.autoSaveIfDue moment, shown, .prompt⟩
  | some (.noStatement _) =>
    ⟨session, shown ++ "\n  " ++ paint session.color bold "The End" ++ "\n", .over⟩
  | some fault => ⟨session, shown ++ complaint session.color fault.message, .prompt⟩

/-- Take a turn and show what it came to. -/
def take {α : Type} (session : Session) (moment : Moment) (turn : Turn α) : Step :=
  match turn session.game with
  | .ok _ game => { session with game := game }.settle moment none
  | .error fault game => { session with game := game }.settle moment (some fault)

/-- Pick the option of a number as it was typed. -/
def pick (number : String) (place : Nat) : Turn Unit := fun game =>
  match if place = 0 then none else (Choice.offered game.world)[place - 1]? with
  | some item => Game.select item.key game
  | none => .error (.rejected ("there is no choice " ++ number)) game

/-- Save to a new slot. -/
def save (session : Session) (moment : Moment) (name : String) : Step :=
  match session.game.save session.store (if name.isEmpty then none else some name) moment.date with
  | .ok (some key, store) =>
    { session with store := store }.stay
      ("  " ++ paint session.color green ("saved as " ++ key) ++ "\n")
  | .ok (none, _) => session.stay (complaint session.color "nothing to save")
  | .error fault => session.stay (complaint session.color fault.message)

/-- The line of a slot. -/
def slotLine (color : Bool) (entry : SlotEntry) : String :=
  "  " ++ paint color bold entry.key ++ "  " ++ entry.slot.name ++ "  "
    ++ paint color dimmed entry.slot.date ++ "\n"

/-- List the player's slots. -/
def list (session : Session) : String :=
  match Game.listSlots session.game.book.settings session.store .manual with
  | .ok [] => noSlots
  | .ok entries => String.join (entries.map (slotLine session.color))
  | .error fault => complaint session.color fault.message

/-- The help. -/
def help : String :=
  "  Enter      continue\n"
    ++ "  back       go back one step\n"
    ++ "  1, 2, ..   pick a choice\n"
    ++ "  save NAME  save to a new slot\n"
    ++ "  load KEY   load a slot\n"
    ++ "  saves      list save slots\n"
    ++ "  auto       toggle autoplay\n"
    ++ "  quit       leave the game\n"

/-- Switch automatic play on or off. -/
def toggleAuto (session : Session) (moment : Moment) : Step :=
  let enable := !session.game.timer.isActive
  let toggled := { session with game := session.game.autoPlay enable moment.now }
  if enable then ⟨toggled, remark session.color "autoplay on", .wait 0⟩
  else toggled.stay (remark session.color "autoplay off")

/-- **Play on by itself**: pause for a menu, or let the timer drive the game. -/
def playOn (session : Session) (moment : Moment) : Step :=
  if Choice.isPending session.game.world then
    { session with game := session.game.autoPlay false moment.now }.stay
      (remark session.color "autoplay paused for a choice")
  else match Game.tick moment.now session.game with
    | .ok (some delay) game =>
      let (shown, session) := { session with game := game }.showEffects
      ⟨session, shown, .wait delay⟩
    | .ok none game => { session with game := game }.stay ""
    | .error fault game => { session with game := game }.settle moment (some fault)

/-- A typed line: the command and its argument, without blanks around them. -/
def readLine (line : String) : String × String :=
  let input := Text.trim line
  match Text.splitOnce? input " " with
  | some (command, argument) => (command, Text.trim argument)
  | none => (input, "")

/-- **Answer a line of input.** -/
def answer (session : Session) (moment : Moment) (line : String) : Step :=
  let (command, argument) := readLine line
  match command with
  | "" => session.take moment Game.proceed
  | "back" | "b" => session.take moment Game.rollback
  | "save" => session.save moment argument
  | "load" =>
    if argument.isEmpty then session.stay (complaint session.color "usage: load KEY")
    else session.take moment (Game.loadFromSlot session.store argument)
  | "saves" => session.stay session.list
  | "auto" => session.toggleAuto moment
  | "help" | "?" => session.stay help
  | "quit" | "q" | "exit" => ⟨session, "", .over⟩
  | _ =>
    match Text.Numeral.ofText? Text.Numeral.max64 command with
    | some place => session.take moment (pick command place)
    | none =>
      session.stay (complaint session.color ("unknown command '" ++ command ++ "' (try 'help')"))

/-! ## Opening -/

/-- The game that is to be played, before the saves are opened. -/
def gameOf (options : PlayOptions) (path : String) (text : Option String) : Except String Game := do
  let story ← readStory path text
  let settings := match options.label with
    | some label => { story.settings with startLabel := label }
    | none => story.settings
  readyGame { story with settings := settings }

/-- Load the preferences, which may be overridden by the language that is asked for. -/
def preparePreferences (options : PlayOptions) (game : Game) (store : DirStore) :
    Except String (Game × DirStore) :=
  match game.loadPreferences store with
  | .error fault => .error ("cannot load preferences: " ++ fault.message)
  | .ok (game, store) =>
    match options.language with
    | some language =>
      .ok (game.setPreferences { game.book.preferences with language := language }, store)
    | none => .ok (game, store)

/-- The greeting. -/
def greeting (color : Bool) (path : String) : String :=
  "  " ++ paint color bold "Playing" ++ " " ++ path
    ++ "\n  Type 'help' for commands, 'quit' to exit.\n\n"

/-- Switch automatic play on, at a number of seconds a step. -/
def playAutomatically (seconds : Nat) (now : Nat) (game : Game) : Game :=
  (game.setPreferences { game.book.preferences with autoPlaySpeed := seconds }).autoPlay true now

/-- **The first step**: greet and start the game. -/
def begin (options : PlayOptions) (color : Bool) (path : String) (game : Game) (store : DirStore)
    (moment : Moment) : Step :=
  let session : Session := ⟨game, store, color, moment.now⟩
  let step := session.take moment Game.start
  let greeted := { step with shown := greeting color path ++ step.shown }
  match step.pace, options.auto with
  | .prompt, some seconds =>
    { greeted with
      session := { step.session with
        game := playAutomatically seconds moment.now step.session.game }
      pace := .wait 0 }
  | _, _ => greeted

end Session

end Narrative.Terminal
