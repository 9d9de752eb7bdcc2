import Narrative.Json.Decode
import Narrative.Json.Shape

/-!
# Character — who can speak in a story
-/

namespace Narrative

/-- **A speaking character.** -/
structure Character where
  /-- The name shown; placeholders in it are filled in. -/
  name : String := ""
  /-- The color of the name. -/
  color : Option String := none
  /-- The directory of the images. -/
  directory : Option String := none
  /-- The image file of each expression. -/
  expressions : Table String := Table.empty
  /-- The image file of a line that names no expression. -/
  defaultExpression : Option String := none
  /-- Whether every line goes to the page. -/
  nvl : Bool := false
  /-- Whether the lines are typed out; undecided, the settings decide. -/
  typeAnimation : Option Bool := none
  deriving Inhabited

namespace Character

/-- The names of the fields, in order. -/
def fieldNames : List String :=
  ["name", "color", "directory", "expressions", "default_expression", "nvl", "type_animation"]

/-- What a text is read for when it is a character. -/
def shape : Json.Shape :=
  .record (fieldNames.map fun name => (name, if name = "expressions" then .table .any else .any))

/-- Read a character; every field has a default. -/
def ofJson? (value : Json) : Option Character := do
  match ← value.slots fieldNames with
  | [name, color, directory, expressions, defaultExpression, nvl, typeAnimation] =>
    return {
      name := ← Json.withDefault "" Json.asText? name
      color := ← Json.optional Json.asText? color
      directory := ← Json.optional Json.asText? directory
      expressions := ← Json.withDefault Table.empty (Json.tableOf Json.asText?) expressions
      defaultExpression := ← Json.optional Json.asText? defaultExpression
      nvl := ← Json.withDefault false Json.asBool? nvl
      typeAnimation := ← Json.optional Json.asBool? typeAnimation }
  | _ => none

/-- Write a character; what is missing is written as null. -/
def toJson (c : Character) : Json :=
  .obj (fieldNames.zip [.str c.name, .ofOption (c.color.map .str),
    .ofOption (c.directory.map .str), Json.ofTable .str c.expressions,
    .ofOption (c.defaultExpression.map .str), .bool c.nvl,
    .ofOption (c.typeAnimation.map .bool)])

/-- **The image of a line.**  A named expression has to exist; without one, the default is used. -/
def image? (c : Character) (expression : Option String) : Option String := do
  let file ← match expression with
    | some name => c.expressions.get? name
    | none => c.defaultExpression
  return match c.directory with
    | some directory => directory ++ "/" ++ file
    | none => file

end Character

end Narrative
