import Narrative.Json.Skim

/-!
# Json/Shape — reading a text for known records

When a text is read for records whose fields are known, the **shape** of what is expected guides the
reader: fields that a record does not have are passed over, and a record must not name one of its
fields twice.  What is read for itself (`any`) has its repeated names settled; in a table all fields
are kept as they are written, since each of them has to make sense.
-/

namespace Narrative.Json

/-- **What a value is read for.** -/
inductive Shape where
  /-- Itself. -/
  | any
  /-- An object of values of one shape, under any names. -/
  | table (value : Shape)
  /-- A record: an object with these fields, or the list of their values. -/
  | record (fields : List (String × Shape))
  deriving Inhabited

namespace Reader

/-- Pass over a value; it is read as null. -/
def passed (fuel : Nat) : Scan Json := fun cs =>
  (Skim.value (fuel + 1) [] .value cs).map (Json.null, ·)

/-- Whether one of these names stands twice among the fields. -/
def namesTwice (names : List String) (fields : List (String × Json)) : Bool :=
  names.any fun name => 1 < (Fields.keys fields).count name

/-- **A value of a shape**, with at most `depth` levels of lists and objects.  What is not written
in the way of its shape is read as it is. -/
def shaped (fuel : Nat) : (depth : Nat) → Shape → Scan Json
  | depth + 1, .table item, '{' :: rest => object (fun _ => shaped fuel depth item) fuel rest
  | depth + 1, .record parts, '{' :: rest => do
    let (found, rest) ← fields (fun name =>
      match Fields.get? parts name with
      | some part => shaped fuel depth part
      | none => passed fuel) fuel rest
    if namesTwice (Fields.keys parts) found then none else return (.obj found, rest)
  | depth + 1, .record parts, '[' :: rest =>
    list (fun place => shaped fuel depth (((parts.map Prod.snd)[place]?).getD .any)) fuel rest
  | depth, _, cs => (value fuel depth cs).map fun (found, rest) => (found.settle, rest)

end Reader

/-- **Read a text for a shape.** -/
def readAs? (shape : Shape) (text : String) : Option Json :=
  let cs := text.toList
  Reader.document (Reader.shaped (cs.length + 1) Reader.maxNesting shape) cs

end Narrative.Json
