import Narrative.Fields
import Narrative.Decimal.Double

/-!
# Json — the values that scripts, saves and effects carry

A `Json` value is null, a truth value, a number, a text, a list, or an object whose fields stand in
order.  A **number** is either an integer, kept exactly, or a double; the two never compare equal,
so `1` and `1.0` differ.

Equality of values (`same`) disregards the order of the fields of an object and the sign of a zero.
-/

namespace Narrative

/-- **A value of a document.** -/
inductive Json where
  | null
  | bool (b : Bool)
  | int (n : Int)
  | float (x : Double)
  | str (s : String)
  | arr (items : List Json)
  | obj (fields : List (String × Json))
  deriving Inhabited

namespace Json

/-! ## Equality -/

mutual

/-- **Equality of values**: integers by value, doubles numerically, objects whatever their order. -/
def same : Json → Json → Bool
  | .null, .null => true
  | .bool a, .bool b => a == b
  | .int a, .int b => a == b
  | .float a, .float b => a.same b
  | .str a, .str b => a == b
  | .arr xs, .arr ys => sameItems xs ys
  | .obj xs, .obj ys => xs.length == ys.length && sameFields xs ys
  | _, _ => false

/-- Equality of lists, item by item. -/
def sameItems : List Json → List Json → Bool
  | [], [] => true
  | x :: xs, y :: ys => same x y && sameItems xs ys
  | _, _ => false

/-- Whether every field of one object has an equal value in the other. -/
def sameFields : List (String × Json) → List (String × Json) → Bool
  | [], _ => true
  | (name, x) :: xs, ys =>
    (match Fields.get? ys name with
      | some y => same x y
      | none => false) && sameFields xs ys

end

instance : BEq Json := ⟨same⟩

/-! ## Distinct names -/

mutual

/-- **Every object in the value has distinct names.** -/
def WellFormed : Json → Prop
  | .arr items => WellFormedItems items
  | .obj fields => Fields.Distinct fields ∧ WellFormedFields fields
  | _ => True

/-- Every item is well formed. -/
def WellFormedItems : List Json → Prop
  | [] => True
  | item :: items => item.WellFormed ∧ WellFormedItems items

/-- Every value of a field is well formed. -/
def WellFormedFields : List (String × Json) → Prop
  | [] => True
  | (_, value) :: fields => value.WellFormed ∧ WellFormedFields fields

end

mutual

/-- **Settle repeated names**: of the fields of one name the last value is kept, at the place of the
first. -/
def settle : Json → Json
  | .arr items => .arr (settleItems items)
  | .obj fields => .obj (Fields.extend [] (settleFields fields))
  | value => value

/-- Settle every item. -/
def settleItems : List Json → List Json
  | [] => []
  | item :: items => item.settle :: settleItems items

/-- Settle every value of a field. -/
def settleFields : List (String × Json) → List (String × Json)
  | [] => []
  | (name, value) :: fields => (name, value.settle) :: settleFields fields

end

/-! ## Views -/

/-- The text of a text. -/
def asText? : Json → Option String
  | .str s => some s
  | _ => none

/-- The truth value of a truth value. -/
def asBool? : Json → Option Bool
  | .bool b => some b
  | _ => none

/-- The items of a list. -/
def asItems? : Json → Option (List Json)
  | .arr items => some items
  | _ => none

/-- The fields of an object. -/
def asFields? : Json → Option (Fields Json)
  | .obj fields => some fields
  | _ => none

/-- The value of an integer from zero to `limit`. -/
def asNat? (limit : Nat) : Json → Option Nat
  | .int n => if 0 ≤ n ∧ n ≤ limit then some n.toNat else none
  | _ => none

/-- The value under a name, if the value is an object that has it. -/
def field? (value : Json) (name : String) : Option Json :=
  match value with
  | .obj fields => Fields.get? fields name
  | _ => none

/-- A list of texts. -/
def ofTexts (texts : List String) : Json := .arr (texts.map .str)

/-- A number that is not negative. -/
def ofNat (n : Nat) : Json := .int n

/-- A value, or null for none. -/
def ofOption : Option Json → Json
  | some value => value
  | none => .null

end Json

end Narrative
