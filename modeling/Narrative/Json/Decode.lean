import Narrative.Json.Basic
import Narrative.Table
import Narrative.Text.Numeral

/-!
# Json/Decode — reading records, lists and tables out of values

A **record** with a fixed list of field names is written as an object, whose other fields are
disregarded, or as the list of its fields' values in their order.  `slots` brings both forms to one
list of optional values, one per name; what a missing one means is for the record to say.
-/

namespace Narrative.Json

/-- **The values of a record**, one per name: from an object by name, from a list by place.  A list
may be shorter than the names, not longer. -/
def slots (names : List String) : Json → Option (List (Option Json))
  | .obj fields => some (names.map (Fields.get? fields ·))
  | .arr items =>
    if items.length ≤ names.length then
      some (items.map some ++ List.replicate (names.length - items.length) none)
    else none
  | _ => none

/-- A field that must be present. -/
def required {α : Type} (decode : Json → Option α) (slot : Option Json) : Option α :=
  slot.bind decode

/-- A field with a default; a present value must decode. -/
def withDefault {α : Type} (default : α) (decode : Json → Option α) : Option Json → Option α
  | none => some default
  | some value => decode value

/-- A field that may be missing or null. -/
def optional {α : Type} (decode : Json → Option α) : Option Json → Option (Option α)
  | none | some .null => some none
  | some value => (decode value).map some

/-- A list whose items decode. -/
def listOf {α : Type} (decode : Json → Option α) : Json → Option (List α)
  | .arr items => items.mapM decode
  | _ => none

/-- Decode the values of a list of fields. -/
def decodeFields {α : Type} (decode : Json → Option α) (fields : Fields Json) :
    Option (Fields α) :=
  fields.mapM fun (name, value) => (decode value).map (name, ·)

/-- A table whose values decode. -/
def tableOf {α : Type} (decode : Json → Option α) : Json → Option (Table α)
  | .obj fields => (decodeFields decode fields).map Table.ofFields
  | _ => none

/-- An unsigned number of 32 bits. -/
def asNat32? : Json → Option Nat := asNat? Text.Numeral.max32

/-- An unsigned number of 64 bits.  No integer of a document exceeds them, so only the sign is
looked at. -/
def asNat64? : Json → Option Nat
  | .int n => if 0 ≤ n then some n.toNat else none
  | _ => none

/-- The object that lists a table in the order of its names. -/
def ofTable {α : Type} (encode : α → Json) (table : Table α) : Json :=
  .obj (table.entries.map fun (name, value) => (name, encode value))

end Narrative.Json
