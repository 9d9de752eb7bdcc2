import Narrative.Json.Decode

/-!
# Globals — what a new game forgets

Globals are flags and values that live only while the program runs: no save holds them, and a new
game sets them back.  Actions keep values of their own under names of their choice.
-/

namespace Narrative

/-- **Flags and values that are not saved.** -/
structure Globals where
  /-- Set while a callback runs; the player can neither continue nor go back. -/
  block : Bool := false
  /-- Whether a game is in progress; only then can it be saved. -/
  playing : Bool := false
  /-- The text box is hidden; the player can neither continue nor go back. -/
  distractionFree : Bool := false
  /-- Cleared while the text of a line is being typed. -/
  finishedTyping : Bool := true
  /-- The slot of the next automatic save. -/
  autoSaveSlot : Nat := 1
  /-- Values owned by actions. -/
  values : Table Json := Table.empty
  deriving Inhabited

namespace Globals

/-- The value under a name. -/
def get? (globals : Globals) (name : String) : Option Json := globals.values.get? name

/-- Store a value under a name. -/
def set (globals : Globals) (name : String) (value : Json) : Globals :=
  { globals with values := globals.values.insert name value }

/-- Remove a name. -/
def remove (globals : Globals) (name : String) : Globals :=
  { globals with values := globals.values.erase name }

/-- The value under a name, stored as `initial` first if there is none. -/
def entry (globals : Globals) (name : String) (initial : Json) : Json × Globals :=
  match globals.get? name with
  | some value => (value, globals)
  | none => (initial, globals.set name initial)

/-- Fresh globals. -/
def fresh : Globals := {}

/-- Whether no flag keeps the player from continuing or going back. -/
def gatesOpen (globals : Globals) : Bool :=
  globals.playing && !globals.block && !globals.distractionFree

end Globals

end Narrative
