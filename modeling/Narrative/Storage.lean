import Narrative.Json.Decode
import Narrative.Text.Cut

/-!
# Storage — the world data of a story

Storage is one object of named values: names, counters, flags.  A **path** such as `player.stats.hp`
or `items.0` is split at its points and walked segment by segment, through objects by name and
through lists by a decimal index.  Nothing can be walked into a value without parts.
-/

namespace Narrative

namespace Json

/-- **One step of a walk**: the field of that name, or the item at that index. -/
def child? : Json → String → Option Json
  | .obj fields, segment => Fields.get? fields segment
  | .arr items, segment => (Text.Numeral.ofText? Text.Numeral.max64 segment).bind (items[·]?)
  | _, _ => none

/-- **A walk**: one step after the other. -/
def walk? : Json → List String → Option Json
  | value, [] => some value
  | value, segment :: more => (value.child? segment).bind (walk? · more)

/-- A walk in two parts. -/
theorem walk?_append (value : Json) (first second : List String) :
    value.walk? (first ++ second) = (value.walk? first).bind (·.walk? second) := by
  induction first generalizing value with
  | nil => rfl
  | cons segment first ih =>
    simp only [List.cons_append, walk?]
    cases value.child? segment with
    | none => rfl
    | some next => exact ih next

end Json

/-- **World data**: named values in order. -/
structure Storage where
  /-- The named values. -/
  data : Fields Json
  deriving Inhabited

namespace Storage

/-- Nothing stored. -/
def empty : Storage := ⟨[]⟩

/-- The storage of an object; any other value is empty storage. -/
def ofJson : Json → Storage
  | .obj fields => ⟨fields⟩
  | _ => empty

/-- Read an object. -/
def ofJson? (value : Json) : Option Storage := value.asFields?.map Storage.mk

/-- The object of a storage. -/
def toJson (storage : Storage) : Json := .obj storage.data

/-- The value under a name. -/
def get? (storage : Storage) (name : String) : Option Json := Fields.get? storage.data name

/-- Store a value under a name. -/
def set (storage : Storage) (name : String) (value : Json) : Storage :=
  ⟨Fields.insert storage.data name value⟩

/-- Remove a name. -/
def remove (storage : Storage) (name : String) : Storage := ⟨Fields.erase storage.data name⟩

/-- Whether nothing is stored. -/
def isEmpty (storage : Storage) : Bool := storage.data.isEmpty

/-- Store every named value of `newer`. -/
def merge (storage newer : Storage) : Storage := ⟨Fields.extend storage.data newer.data⟩

/-- The segments of a path; there is always one. -/
def segments (path : String) : List String := Text.splitAt path '.'

/-- **The value that a path leads to.** -/
def resolve? (storage : Storage) (path : String) : Option Json :=
  storage.toJson.walk? (segments path)

end Storage

end Narrative
