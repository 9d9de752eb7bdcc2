import Narrative.Json.Decode

/-!
# History — what has to be remembered to go back

Each kind of statement keeps the entries it needs to undo a step on a **stack** of its own, under a
name.  A stack lists its newest entry first; a document lists it last.
-/

namespace Narrative

/-- **Named stacks of entries.** -/
structure History where
  /-- The stack of each name, its newest entry first. -/
  byName : Table (List Json)
  deriving Inhabited

namespace History

/-- No stacks. -/
def empty : History := ⟨Table.empty⟩

/-- The stack of a name, if it has been created. -/
def get? (history : History) (name : String) : Option (List Json) := history.byName.get? name

/-- The entries under a name, newest first; none when there is no such stack. -/
def entries (history : History) (name : String) : List Json := (history.get? name).getD []

/-- Create the stack of a name unless it exists. -/
def create (history : History) (name : String) : History :=
  ⟨history.byName.insert name (history.entries name)⟩

/-- The newest entry under a name. -/
def peek? (history : History) (name : String) : Option Json := (history.entries name).head?

/-- Put an entry on the stack of a name. -/
def push (history : History) (name : String) (entry : Json) : History :=
  ⟨history.byName.insert name (entry :: history.entries name)⟩

/-- Take the newest entry off the stack of a name.  A missing stack stays missing. -/
def pop (history : History) (name : String) : History :=
  match history.get? name with
  | none => history
  | some stack => ⟨history.byName.insert name stack.tail⟩

/-- Empty every stack; the names stay. -/
def clear (history : History) : History := ⟨history.byName.map fun _ => []⟩

/-- Replace the stacks that `newer` names. -/
def merge (history newer : History) : History := ⟨history.byName.union newer.byName⟩

/-- Write the stacks, each from its oldest to its newest entry. -/
def toJson (history : History) : Json :=
  Json.ofTable (fun stack => .arr stack.reverse) history.byName

/-- Read an object of lists. -/
def ofJson? (value : Json) : Option History :=
  (Json.tableOf (fun stack => stack.asItems?.map List.reverse) value).map History.mk

/-! ## What the operations do to the entries -/

@[simp] theorem entries_push (history : History) (name : String) (entry : Json) (other : String) :
    (history.push name entry).entries other
      = if other = name then entry :: history.entries name else history.entries other := by
  by_cases h : other = name <;> simp [push, entries, get?, h]

@[simp] theorem entries_pop (history : History) (name other : String) :
    (history.pop name).entries other
      = if other = name then (history.entries name).tail else history.entries other := by
  cases hs : history.byName.get? name with
  | none => by_cases h : other = name <;> simp [pop, entries, get?, hs, h]
  | some stack => by_cases h : other = name <;> simp [pop, entries, get?, hs, h]

@[simp] theorem entries_create (history : History) (name other : String) :
    (history.create name).entries other = history.entries other := by
  by_cases h : other = name <;> simp [create, entries, get?, h]

end History

end Narrative
