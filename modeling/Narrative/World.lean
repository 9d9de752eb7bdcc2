import Narrative.Snapshot
import Narrative.Globals
import Narrative.Effect
import Narrative.Report
import Narrative.Fault

/-!
# World — what a running statement may read and change

The **world** is the saved part of a game (state, history, storage), its globals, and what waits to
be delivered: effects for the host and reports for the author.  A computation on the world (`Play`)
may fail; what it did before failing stays done, so the world after a fault is as much a result as
the fault.
-/

namespace Narrative

/-- **What a running statement may read and change.** -/
structure World where
  /-- Where the game is, and its variables. -/
  state : State
  /-- What has to be remembered to go back. -/
  history : History := History.empty
  /-- The world data. -/
  storage : Storage := Storage.empty
  /-- Flags and values that are not saved. -/
  globals : Globals := Globals.fresh
  /-- Effects that wait for the host, newest first. -/
  queue : List Effect := []
  /-- Reports that wait for the author, oldest first. -/
  reports : List Report := []
  deriving Inhabited

/-- **A computation on the world** that may fail.  A failure keeps what was done before it. -/
abbrev Play (α : Type) := EStateM Fault World α

/-- The state that a result leaves. -/
def Result.left {σ α : Type} : EStateM.Result Fault σ α → σ
  | .ok _ state => state
  | .error _ state => state

namespace World

/-- Where the game is. -/
def cursor (world : World) : Cursor := world.state.cursor

/-- Move to a position. -/
def moveTo (world : World) (cursor : Cursor) : World :=
  { world with state := { world.state with cursor := cursor } }

/-- **The effects that wait for the host**, oldest first. -/
def effects (world : World) : List Effect := world.queue.reverse

/-- Queue effects for the host. -/
def emit (world : World) (effects : List Effect) : World :=
  { world with queue := effects.reverse ++ world.queue }

@[simp] theorem effects_emit (world : World) (effects : List Effect) :
    (world.emit effects).effects = world.effects ++ effects := by
  simp [emit, World.effects]

/-- Queue a report for the author. -/
def report (world : World) (report : Report) : World :=
  { world with reports := world.reports ++ [report] }

/-- Set a variable. -/
def setVar (world : World) (name : String) (value : Json) : World :=
  { world with state := world.state.set name value }

/-- Push an entry on a stack of the history. -/
def push (world : World) (stack : String) (entry : Json) : World :=
  { world with history := world.history.push stack entry }

/-- Pop the newest entry of a stack of the history. -/
def pop (world : World) (stack : String) : World :=
  { world with history := world.history.pop stack }

/-- Create a stack of the history. -/
def createStack (world : World) (stack : String) : World :=
  { world with history := world.history.create stack }

/-- Change the globals. -/
def withGlobals (world : World) (change : Globals → Globals) : World :=
  { world with globals := change world.globals }

/-- **The saved part of the world.** -/
def snapshot (world : World) : Snapshot := ⟨world.history, world.state, world.storage⟩

/-- Merge a snapshot over the saved part of the world. -/
def restore (world : World) (snapshot : Snapshot) : World :=
  { world with
    state := world.state.merge snapshot.state
    history := world.history.merge snapshot.history
    storage := world.storage.merge snapshot.storage }

end World

namespace Play

/-- Fail with a fault. -/
def fail {α : Type} (fault : Fault) : Play α := fun world => .error fault world

/-- Change the world. -/
def update (change : World → World) : Play Unit := fun world => .ok () (change world)

/-- Queue effects for the host. -/
def emit (effects : List Effect) : Play Unit := update (·.emit effects)

end Play

end Narrative
