import Narrative.Game.Saves
import Narrative.Store.Directory
import Narrative.Terminal.Check
import Narrative.Text.Width

/-!
# Terminal/Listing — the slots of a directory as a table

A column is as wide as its widest cell, cells are filled up on the right, and a cell of several
lines makes its row as high.  A rule stands above and below, a double rule under the heading, and a
broken rule between rows.
-/

namespace Narrative.Terminal

/-- A cell: its lines. -/
abbrev Cell := List String

/-- The cell of a text. -/
def cell (text : String) : Cell := Text.splitAt text '\n'

/-- A text filled up to a width. -/
def fillUp (width : Nat) (text : String) : String :=
  text ++ String.ofList (List.replicate (width - Text.width text) ' ')

/-- The width of the widest line in a column. -/
def columnWidth (rows : List (List Cell)) (column : Nat) : Nat :=
  ((rows.map fun row => ((row[column]?).getD []).map Text.width).flatten).foldl max 0

/-- The lines of a row. -/
def rowLines (widths : List Nat) (row : List Cell) : List String :=
  let height := (row.map List.length).foldl max 0
  (List.range height).map fun line =>
    let cells := (row.zip widths).map fun (cell, width) => fillUp width ((cell[line]?).getD "")
    "| " ++ Text.join " | " cells ++ " |"

/-- A rule: columns of `stroke`, between `outer` marks, with `inner` marks between them. -/
def rule (widths : List Nat) (outer inner : String) (stroke : Char) : String :=
  let columns := widths.map fun w => String.ofList (List.replicate (w + 2) stroke)
  outer ++ Text.join inner columns ++ outer

/-- **A table** with a heading. -/
def table (heading : List String) (rows : List (List String)) : String :=
  let cells := (heading :: rows).map (·.map cell)
  let widths := (List.range heading.length).map (columnWidth cells)
  let edge := rule widths "+" "+" '-'
  let body := (rows.map fun row => rowLines widths (row.map cell)).intersperse
    [rule widths "|" "+" '-']
  Text.join "\n"
    ([edge] ++ rowLines widths (heading.map cell) ++ [rule widths "+" "=" '=']
      ++ body.flatten ++ [edge])

/-- The row of a slot. -/
def slotRow (entry : SlotEntry) : List String :=
  [Text.Numeral.text entry.id, entry.key, entry.slot.name, entry.slot.date,
    entry.slot.snapshot.state.cursor.text]

/-- The line for no slots. -/
def noSlots : String := "  No saved games.\n"

/-- **List the slots of a directory**, under the family names of the standard settings. -/
def listing (store : DirStore) (auto : Bool) : Outcome :=
  match Game.listSlots {} store (if auto then .auto else .manual) with
  | .error fault => Outcome.fail {} fault.message
  | .ok [] => Outcome.write {} noSlots
  | .ok entries =>
    Outcome.write {} (table ["Slot", "Key", "Name", "Date", "Position"] (entries.map slotRow)
      ++ "\n\n  " ++ counted entries.length "slot" ++ "\n")

end Narrative.Terminal
