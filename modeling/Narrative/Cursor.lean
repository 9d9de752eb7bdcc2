import Narrative.Text.Numeral

/-!
# Cursor — a position in a script

A cursor names a label and a **step** within it.  A step is the place of a statement, or the number
of statements of the label, which is its end.
-/

namespace Narrative

/-- **A position in a script.** -/
structure Cursor where
  /-- The label being run. -/
  label : String
  /-- The place of the statement within the label. -/
  step : Nat
  deriving DecidableEq, Inhabited

namespace Cursor

/-- The first statement of a label. -/
def start (label : String) : Cursor := ⟨label, 0⟩

/-- The same label at another step. -/
def atStep (cursor : Cursor) (step : Nat) : Cursor := ⟨cursor.label, step⟩

/-- The label and the step, with a colon between them. -/
def text (cursor : Cursor) : String := cursor.label ++ ":" ++ Text.Numeral.text cursor.step

end Cursor

end Narrative
