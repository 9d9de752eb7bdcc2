import Narrative.Rewind
import Narrative.Timer

/-!
# Game — a story being played

A **game** is a world with the playbook and the actions it is played by, a timer, and what a new
game starts from.  A `Turn` is a computation on a game that may fail; like a `Play`, it keeps what
was done before a fault.  The moves of the player are turns: `proceed` and `rollback` ask the guards
first, and take a rejection for an answer that nothing moved.
-/

namespace Narrative

/-- **A story being played.** -/
structure Game where
  /-- The script, the settings and the preferences. -/
  book : Playbook
  /-- The actions. -/
  registry : Registry
  /-- What statements read and change. -/
  world : World
  /-- The clock of automatic play. -/
  timer : Timer
  /-- The state of a new game. -/
  freshState : State
  /-- The storage of a new game. -/
  freshStorage : Storage
  deriving Inhabited

/-- **A computation on a game** that may fail.  A failure keeps what was done before it. -/
abbrev Turn (α : Type) := EStateM Fault Game α

namespace Turn

/-- A computation on the world of a game. -/
def ofPlay {α : Type} (play : Playbook → Registry → Play α) : Turn α := fun game =>
  match play game.book game.registry game.world with
  | .ok value world => .ok value { game with world := world }
  | .error fault world => .error fault { game with world := world }

/-- Change the game. -/
def update (change : Game → Game) : Turn Unit := fun game => .ok () (change game)

/-- Whether a turn succeeds; a rejection is an answer, any other fault is not. -/
def granted (turn : Turn Unit) : Turn Bool := fun game =>
  match turn game with
  | .ok _ after => .ok true after
  | .error fault after => if fault.isRejection then .ok false after else .error fault after

end Turn

namespace Game

/-- A game that has not been set up. -/
def create (script : Script) (registry : Registry) (settings : Settings) : Game :=
  let state := State.start settings.startLabel
  let preferences : Preferences := {}
  { book := { script := script, settings := settings, preferences := preferences }
    registry := registry
    world := { state := state }
    timer := Timer.stopped preferences.autoPlayInterval
    freshState := state
    freshStorage := Storage.empty }

/-- World data to start every new game with. -/
def withStorage (game : Game) (storage : Storage) : Game :=
  { game with world := { game.world with storage := storage }, freshStorage := storage }

/-- Replace the preferences. -/
def setPreferences (game : Game) (preferences : Preferences) : Game :=
  { game with book := { game.book with preferences := preferences } }

/-- Start out with preferences; they also set the timer's interval. -/
def withPreferences (game : Game) (preferences : Preferences) : Game :=
  { game.setPreferences preferences with
    timer := game.timer.setInterval preferences.autoPlayInterval }

/-- Change the world. -/
def withWorld (game : Game) (change : World → World) : Game :=
  { game with world := change game.world }

/-- Where the game is. -/
def cursor (game : Game) : Cursor := game.world.cursor

/-- **The part of the game that is saved.** -/
def snapshot (game : Game) : Snapshot := game.world.snapshot

/-- Take the effects that wait for the host. -/
def drainEffects (game : Game) : List Effect × Game :=
  (game.world.effects, game.withWorld ({ · with queue := [] }))

/-- Take the reports that wait for the author. -/
def drainReports (game : Game) : List Report × Game :=
  (game.world.reports, game.withWorld ({ · with reports := [] }))

/-! ## The life of a game -/

/-- One hook of every action. -/
def eachAction (hook : Action → Playbook → Play Unit) : Turn Unit :=
  Turn.ofPlay fun book registry => registry.each fun action => hook action book

/-- What a new game starts from is what the game is now. -/
def rememberFresh (game : Game) : Game :=
  { game with freshState := game.world.state, freshStorage := game.world.storage }

/-- **Set up the actions**: every setup, then every binding, then every initialization. -/
def setup : Turn Unit := do
  eachAction Action.setup
  eachAction Action.bind
  eachAction Action.init
  Turn.update rememberFresh

/-- A game is in progress. -/
def setPlaying (game : Game) : Game := game.withWorld (·.withGlobals ({ · with playing := true }))

/-- **Start**: run the statement at the cursor. -/
def start : Turn Unit := do
  Turn.update setPlaying
  eachAction Action.onStart
  Turn.ofPlay Run.runCurrent

/-- Back to the beginning, before the actions are told: the state and storage of a new game, empty
stacks, fresh globals except for whether a game is in progress, a stopped timer. -/
def clear (game : Game) : Game :=
  let world := game.world
  { game with
    timer := game.timer.stop
    world := { world with
      globals := { Globals.fresh with playing := world.globals.playing }
      state := game.freshState
      storage := game.freshStorage
      history := world.history.clear } }

/-- **Back to the beginning.** -/
def reset : Turn Unit := do
  Turn.update clear
  eachAction Action.reset

/-! ## Moves -/

/-- Run a statement and what follows it. -/
def run (statement : Statement) (advance : Bool) : Turn Unit :=
  Turn.ofPlay fun book registry => Run.run book registry statement advance

/-- Run the statement at the cursor and what follows it. -/
def runCurrent : Turn Unit := Turn.ofPlay Run.runCurrent

/-- Go one step on, whatever the guards say. -/
def next : Turn Unit := Turn.ofPlay Run.next

/-- Go one step back, whatever the guards say. -/
def revert : Turn Unit := Turn.ofPlay Rewind.revert

/-- Ask the flags and one guard of every action; closed flags keep the actions from being asked. -/
def ask (guard : Action → Playbook → World → Bool × World) : Turn Bool := fun game =>
  if game.world.globals.gatesOpen then
    let (allowed, world) := game.registry.askAll (fun action => guard action game.book) game.world
    .ok allowed { game with world := world }
  else .ok false game

/-- Whether the player may continue. -/
def canProceed : Turn Bool := ask Action.canProceed

/-- Whether the player may go back. -/
def canRevert : Turn Bool := ask Action.canRevert

/-- **Continue**, if the guards allow it.  The answer is whether the game moved. -/
def proceed : Turn Bool := do
  if ← canProceed then next.granted else pure false

/-- **Go back**, if the guards allow it. -/
def rollback : Turn Bool := do
  if ← canRevert then revert.granted else pure false

/-- The line being typed is finished. -/
def finishTyping (game : Game) : Game :=
  game.withWorld (·.withGlobals ({ · with finishedTyping := true }))

/-! ## Automatic play -/

/-- Switch automatic play on or off; the interval comes from the preferences. -/
def autoPlay (enable : Bool) (now : Nat) (game : Game) : Game :=
  { game with
    timer :=
      if enable then (game.timer.setInterval game.book.preferences.autoPlayInterval).start now
      else game.timer.stop }

/-- **Drive automatic play.**  The answer is how long to wait, or none when it is off.  A refusal of
the guards postpones the firing; a fault other than a rejection stops the timer. -/
def tick (now : Nat) : Turn (Option Nat) := fun game =>
  if !game.timer.isDue now then .ok (game.timer.remaining? now) game
  else match canProceed game with
    | .error fault after => .error fault after
    | .ok false after =>
      .ok (some after.timer.interval) { after with timer := after.timer.postpone now }
    | .ok true after =>
      let (delay, timer) := after.timer.reschedule now
      match next.granted { after with timer := timer } with
      | .ok _ after => .ok (some delay) after
      | .error fault after => .error fault { after with timer := after.timer.stop }

end Game

end Narrative
