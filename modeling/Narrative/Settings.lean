import Narrative.Storage.Template
import Narrative.Json.Shape

/-!
# Settings — what the author fixes and what the player prefers

**Settings** belong to the story and do not change while it is played.  **Preferences** belong to
the player and are stored between sessions.  Both are read with a default for every missing field.
-/

namespace Narrative

/-- **The author's settings.** -/
structure Settings where
  /-- The label a new game starts at. -/
  startLabel : String := "Start"
  /-- The number of automatic save slots. -/
  slots : Nat := 10
  /-- Whether the script has labels for several languages. -/
  multiLanguage : Bool := false
  /-- The name of the family of slots saved by the player. -/
  saveLabel : String := "Save"
  /-- The name of the family of slots saved automatically. -/
  autoSaveLabel : String := "AutoSave"
  /-- The minutes between automatic saves; zero for none. -/
  autoSaveMinutes : Nat := 0
  /-- Whether lines are typed out at all. -/
  typeAnimation : Bool := true
  /-- Whether narration is typed out. -/
  narratorTypeAnimation : Bool := true
  /-- Whether centered lines are typed out. -/
  centeredTypeAnimation : Bool := true
  /-- Whether lines of a page are typed out. -/
  nvlTypeAnimation : Bool := true
  /-- What stands for a placeholder whose path leads nowhere. -/
  unresolved : UnresolvedPolicy := .word
  /-- How many statements one call may run. -/
  maxChain : Nat := 10000
  deriving DecidableEq, Inhabited

namespace Settings

/-- The names of the fields, in order. -/
def fieldNames : List String :=
  ["start_label", "slots", "multi_language", "save_label", "auto_save_label", "auto_save_minutes",
    "type_animation", "narrator_type_animation", "centered_type_animation", "nvl_type_animation",
    "unresolved", "max_chain"]

/-- What a text is read for when it is settings.  A policy may be an object. -/
def shape : Json.Shape :=
  .record (fieldNames.map fun name => (name, if name = "unresolved" then .table .any else .any))

/-- Write settings. -/
def toJson (s : Settings) : Json :=
  .obj (fieldNames.zip [.str s.startLabel, .ofNat s.slots, .bool s.multiLanguage, .str s.saveLabel,
    .str s.autoSaveLabel, .ofNat s.autoSaveMinutes, .bool s.typeAnimation,
    .bool s.narratorTypeAnimation, .bool s.centeredTypeAnimation, .bool s.nvlTypeAnimation,
    .str s.unresolved.name, .ofNat s.maxChain])

/-- Read settings. -/
def ofJson? (value : Json) : Option Settings := do
  let standard : Settings := {}
  match ← value.slots fieldNames with
  | [startLabel, slots, multiLanguage, saveLabel, autoSaveLabel, autoSaveMinutes, typeAnimation,
      narrator, centered, nvl, unresolved, maxChain] =>
    return {
      startLabel := ← Json.withDefault standard.startLabel Json.asText? startLabel
      slots := ← Json.withDefault standard.slots Json.asNat32? slots
      multiLanguage := ← Json.withDefault standard.multiLanguage Json.asBool? multiLanguage
      saveLabel := ← Json.withDefault standard.saveLabel Json.asText? saveLabel
      autoSaveLabel := ← Json.withDefault standard.autoSaveLabel Json.asText? autoSaveLabel
      autoSaveMinutes := ← Json.withDefault standard.autoSaveMinutes Json.asNat32? autoSaveMinutes
      typeAnimation := ← Json.withDefault standard.typeAnimation Json.asBool? typeAnimation
      narratorTypeAnimation :=
        ← Json.withDefault standard.narratorTypeAnimation Json.asBool? narrator
      centeredTypeAnimation :=
        ← Json.withDefault standard.centeredTypeAnimation Json.asBool? centered
      nvlTypeAnimation := ← Json.withDefault standard.nvlTypeAnimation Json.asBool? nvl
      unresolved := ← Json.withDefault standard.unresolved UnresolvedPolicy.ofJson? unresolved
      maxChain := ← Json.withDefault standard.maxChain Json.asNat64? maxChain }
  | _ => none

/-- The same settings with nothing typed out. -/
def withoutAnimation (s : Settings) : Settings :=
  { s with
    typeAnimation := false
    narratorTypeAnimation := false
    centeredTypeAnimation := false
    nvlTypeAnimation := false }

end Settings

/-- **The player's preferences.** -/
structure Preferences where
  /-- The language of a script with several. -/
  language : String := "English"
  /-- Milliseconds per typed character. -/
  textSpeed : Nat := 20
  /-- Seconds between the steps of automatic play. -/
  autoPlaySpeed : Nat := 5
  deriving DecidableEq, Inhabited

namespace Preferences

/-- The names of the fields, in order. -/
def fieldNames : List String := ["Language", "TextSpeed", "AutoPlaySpeed"]

/-- Write preferences. -/
def toFields (p : Preferences) : Fields Json :=
  [("Language", .str p.language), ("TextSpeed", .ofNat p.textSpeed),
    ("AutoPlaySpeed", .ofNat p.autoPlaySpeed)]

/-- Write preferences as an object. -/
def toJson (p : Preferences) : Json := .obj p.toFields

/-- Read preferences. -/
def ofJson? (value : Json) : Option Preferences := do
  let standard : Preferences := {}
  match ← value.slots fieldNames with
  | [language, textSpeed, autoPlaySpeed] =>
    return {
      language := ← Json.withDefault standard.language Json.asText? language
      textSpeed := ← Json.withDefault standard.textSpeed Json.asNat32? textSpeed
      autoPlaySpeed := ← Json.withDefault standard.autoPlaySpeed Json.asNat32? autoPlaySpeed }
  | _ => none

/-- The time between the steps of automatic play, in milliseconds. -/
def autoPlayInterval (p : Preferences) : Nat := 1000 * p.autoPlaySpeed

end Preferences

end Narrative
