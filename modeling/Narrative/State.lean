import Narrative.Cursor
import Narrative.Json.Decode

/-!
# State — where the game is, and its variables

The state holds the cursor and free-form **variables**, both kept in a save.  It is written as one
flat object: the label, the step, then the variables.  A variable that is itself named `label` or
`step` takes the place of the cursor's value in that object, and in that object only.
-/

namespace Narrative

/-- **The cursor and the variables of a game.** -/
structure State where
  /-- Where the game is. -/
  cursor : Cursor
  /-- Free-form variables. -/
  vars : Fields Json
  deriving Inhabited

namespace State

/-- The label that a game starts at unless its settings name another. -/
def defaultLabel : String := "Start"

/-- The start of a label, without variables. -/
def start (label : String) : State := ⟨Cursor.start label, []⟩

/-- The value of a variable. -/
def get? (state : State) (name : String) : Option Json := Fields.get? state.vars name

/-- The value of a variable that holds a text. -/
def getText? (state : State) (name : String) : Option String := (state.get? name).bind Json.asText?

/-- Set a variable. -/
def set (state : State) (name : String) (value : Json) : State :=
  { state with vars := Fields.insert state.vars name value }

/-- Remove a variable. -/
def remove (state : State) (name : String) : State :=
  { state with vars := Fields.erase state.vars name }

/-- Take over the cursor and every variable of `newer`; the other variables stay. -/
def merge (state newer : State) : State :=
  ⟨newer.cursor, Fields.extend state.vars newer.vars⟩

/-! ## Written form -/

/-- **The flat object of a state.** -/
def toJson (state : State) : Json :=
  .obj (Fields.extend
    [("label", .str state.cursor.label), ("step", .ofNat state.cursor.step)] state.vars)

/-- Read a flat object: a label, a step, and the other fields as variables. -/
def ofJson? : Json → Option State
  | .obj fields => do
    let label ← (← Fields.get? fields "label").asText?
    let step ← (← Fields.get? fields "step").asNat64?
    return ⟨⟨label, step⟩, fields.filter fun (name, _) => name ≠ "label" && name ≠ "step"⟩
  | _ => none

@[simp] theorem cursor_set (state : State) (name : String) (value : Json) :
    (state.set name value).cursor = state.cursor := rfl

end State

end Narrative
