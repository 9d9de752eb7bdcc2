import Narrative.Game
import Narrative.Action.Jump
import Narrative.Action.Next
import Narrative.Action.Particles
import Narrative.Action.Choice
import Narrative.Action.Dialog
import Narrative.Json.Shape

/-!
# Story — a script with the characters, presets, data and settings it uses

A story is one record, of which only the script is required.  It is read from a value or from a
text.  Every character of a text must be readable, also one whose name is repeated later.
-/

namespace Narrative

/-- **The built-in actions**, lines last, since they handle every text. -/
def builtinRegistry (characters : Table Character) (presets : Fields Json) : Registry :=
  ⟨[Jump.action, Next.action, Particles.action presets, Choice.action, Dialog.action characters]⟩

/-- **A story.** -/
structure Story where
  /-- The script, not yet read as one. -/
  script : Json
  /-- Who can speak. -/
  characters : Table Character
  /-- The presets of particle systems. -/
  particles : Fields Json
  /-- The world data of a new game. -/
  storage : Fields Json
  /-- The author's settings. -/
  settings : Settings
  deriving Inhabited

namespace Story

/-- The names of the fields, in order. -/
def fieldNames : List String := ["script", "characters", "particles", "storage", "settings"]

/-- Read a story. -/
def ofJson? (value : Json) : Option Story := do
  match ← value.slots fieldNames with
  | [script, characters, particles, storage, settings] =>
    return {
      script := ← script
      characters := ← Json.withDefault Table.empty (Json.tableOf Character.ofJson?) characters
      particles := ← Json.withDefault [] Json.asFields? particles
      storage := ← Json.withDefault [] Json.asFields? storage
      settings := ← Json.withDefault {} Settings.ofJson? settings }
  | _ => none

/-- What a text is read for when it is a story. -/
def shape : Json.Shape :=
  .record (fieldNames.zip [.any, .table Character.shape, .any, .any, Settings.shape])

/-- **Read a story from a text.** -/
def ofText? (text : String) : Option Story := (Json.readAs? shape text).bind ofJson?

/-! ## The game of a story -/

/-- Read the script. -/
def script? (story : Story) : Option Script :=
  Script.ofJson? story.settings.multiLanguage story.script

/-- A game of the story, not set up, with given actions. -/
def gameWith? (story : Story) (registry : Registry) : Option Game :=
  story.script?.map fun script =>
    (Game.create script registry story.settings).withStorage ⟨story.storage⟩

/-- The built-in actions with the story's characters and presets. -/
def registry (story : Story) : Registry := builtinRegistry story.characters story.particles

end Story

end Narrative
