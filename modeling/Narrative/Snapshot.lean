import Narrative.State
import Narrative.History
import Narrative.Storage

/-!
# Snapshot — what a save holds

A **snapshot** is the part of a game that is kept: the history, the state and the storage.  A **save
slot** is a snapshot with a name, a date and the image of the scene, if one was on screen.
-/

namespace Narrative

/-- **Everything needed to resume a game.** -/
structure Snapshot where
  /-- What has to be remembered to go back. -/
  history : History
  /-- Where the game is, and its variables. -/
  state : State
  /-- The world data. -/
  storage : Storage
  deriving Inhabited

namespace Snapshot

/-- Write a snapshot. -/
def toJson (snapshot : Snapshot) : Json :=
  .obj [("history", snapshot.history.toJson), ("state", snapshot.state.toJson),
    ("storage", snapshot.storage.toJson)]

/-- Read a snapshot; all three parts are required. -/
def ofJson? (value : Json) : Option Snapshot := do
  match ← value.slots ["history", "state", "storage"] with
  | [history, state, storage] =>
    return {
      history := ← Json.required History.ofJson? history
      state := ← Json.required State.ofJson? state
      storage := ← Json.required Storage.ofJson? storage }
  | _ => none

end Snapshot

/-- **A saved game.** -/
structure SaveSlot where
  /-- The name given by the player, or else the date. -/
  name : String
  /-- When the game was saved. -/
  date : String
  /-- The image of the scene, if one was on screen. -/
  image : Option String
  /-- The game as it was. -/
  snapshot : Snapshot
  deriving Inhabited

namespace SaveSlot

/-- Write a save slot; a missing image is written as null. -/
def toJson (slot : SaveSlot) : Json :=
  .obj [("name", .str slot.name), ("date", .str slot.date),
    ("image", .ofOption (slot.image.map .str)), ("snapshot", slot.snapshot.toJson)]

/-- Read a save slot; only the image may be missing. -/
def ofJson? (value : Json) : Option SaveSlot := do
  match ← value.slots ["name", "date", "image", "snapshot"] with
  | [name, date, image, snapshot] =>
    return {
      name := ← Json.required Json.asText? name
      date := ← Json.required Json.asText? date
      image := ← Json.optional Json.asText? image
      snapshot := ← Json.required Snapshot.ofJson? snapshot }
  | _ => none

end SaveSlot

end Narrative
