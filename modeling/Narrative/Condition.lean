import Narrative.Storage

/-!
# Condition — when an option of a menu is offered

A condition is read from a value and evaluated against the storage.  A truth value is itself; a text
is a path whose value has to be **truthy**, or not truthy after a leading exclamation mark; an
object with one field compares a path with a value (`equals`) or combines conditions (`not`, `all`,
`any`).  Nothing else is a condition.
-/

namespace Narrative

/-- **A condition on the storage.** -/
inductive Condition where
  /-- The value at a path is truthy. -/
  | truthy (path : String)
  /-- The value at a path equals a given one. -/
  | equals (path : String) (value : Json)
  /-- The condition does not hold. -/
  | not (condition : Condition)
  /-- All hold. -/
  | all (conditions : List Condition)
  /-- At least one holds. -/
  | any (conditions : List Condition)
  /-- Holds always. -/
  | always
  deriving Inhabited

namespace Condition

/-- The condition of a text. -/
def ofPath (path : String) : Condition :=
  match Text.stripStart? path "!" with
  | some rest => .not (.truthy rest)
  | none => .truthy path

/-- The comparison of a list of a path and a value. -/
def ofPair? : Json → Option Condition
  | .arr [.str path, value] => some (.equals path value)
  | _ => none

mutual

/-- **Read a condition.** -/
def ofJson? : Json → Option Condition
  | .bool true => some .always
  | .bool false => some (.not .always)
  | .str path => some (ofPath path)
  | .obj [(name, value)] =>
    if name = "not" then (ofJson? value).map .not
    else if name = "all" then (ofList? value).map .all
    else if name = "any" then (ofList? value).map .any
    else if name = "equals" then ofPair? value
    else none
  | _ => none

/-- Read a list of conditions. -/
def ofList? : Json → Option (List Condition)
  | .arr items => ofItems? items
  | _ => none

/-- Read every item. -/
def ofItems? : List Json → Option (List Condition)
  | [] => some []
  | item :: items => do
    let condition ← ofJson? item
    let conditions ← ofItems? items
    return condition :: conditions

end

/-- **Truthiness**: not null, not false, not a zero, not the empty text. -/
def isTruthy : Json → Bool
  | .null => false
  | .bool b => b
  | .int n => n ≠ 0
  | .float x => !x.isZero
  | .str s => !s.isEmpty
  | .arr _ | .obj _ => true

mutual

/-- **Evaluate a condition.** -/
def evaluate (storage : Storage) : Condition → Bool
  | .truthy path => (storage.resolve? path).any isTruthy
  | .equals path value => (storage.resolve? path).any (·.same value)
  | .not condition => !condition.evaluate storage
  | .all conditions => evaluateAll storage conditions
  | .any conditions => evaluateAny storage conditions
  | .always => true

/-- Whether all hold. -/
def evaluateAll (storage : Storage) : List Condition → Bool
  | [] => true
  | condition :: conditions => condition.evaluate storage && evaluateAll storage conditions

/-- Whether at least one holds. -/
def evaluateAny (storage : Storage) : List Condition → Bool
  | [] => false
  | condition :: conditions => condition.evaluate storage || evaluateAny storage conditions

end

end Condition

end Narrative
