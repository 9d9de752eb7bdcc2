import Narrative.Json.Basic
import Narrative.Decimal.Layout
import Narrative.Text.Numeral

/-!
# Json/Writer — the two texts of a value

The **compact** text of a value has no blanks.  The **indented** text puts every item and every
field on a line of its own, two blanks further in for each level, and leaves empty lists and objects
on one line.  Both write texts and numbers in the same way.
-/

namespace Narrative.Json

/-! ## Texts and numbers -/

/-- A hexadecimal digit in lower case. -/
def hexDigit (n : Nat) : Char :=
  if n < 10 then Char.ofNat (48 + n) else Char.ofNat (87 + n)

/-- **A character inside quotes.**  The quote, the backslash and the control characters below the
blank are escaped, five of these by a letter; all else stands for itself. -/
def quoteChar (c : Char) : List Char :=
  if c = '"' then ['\\', '"']
  else if c = '\\' then ['\\', '\\']
  else if c = '\n' then ['\\', 'n']
  else if c = '\r' then ['\\', 'r']
  else if c = '\t' then ['\\', 't']
  else if c = '\x08' then ['\\', 'b']
  else if c = '\x0c' then ['\\', 'f']
  else if c.toNat < 32 then
    ['\\', 'u', '0', '0', hexDigit (c.toNat / 16), hexDigit (c.toNat % 16)]
  else [c]

/-- A text in quotes. -/
def quote (s : String) : List Char := '"' :: s.toList.flatMap quoteChar ++ ['"']

/-- Doubles are written plainly from `0.00001` up to sixteen whole digits, with the fraction `.0`
where there is none; beyond, with a signed exponent. -/
def doubleLayout : Decimal.Layout :=
  { leastPlain := -5, greatestPlain := 15, wholeMark := ['.', '0'], exponentMark := ['e'],
    plusMark := ['+'] }

/-- The text of a value that has no parts. -/
def scalarText : Json → List Char
  | .null => ['n', 'u', 'l', 'l']
  | .bool true => ['t', 'r', 'u', 'e']
  | .bool false => ['f', 'a', 'l', 's', 'e']
  | .int n => (Text.Numeral.signedText n).toList
  | .float x => doubleLayout.text x
  | .str s => quote s
  | .arr _ => ['[', ']']
  | .obj _ => ['{', '}']

/-! ## Compact text -/

mutual

/-- The characters of the compact text. -/
def compact : Json → List Char
  | .arr items => '[' :: compactItems items ++ [']']
  | .obj fields => '{' :: compactFields fields ++ ['}']
  | value => scalarText value

/-- Items with commas between them. -/
def compactItems : List Json → List Char
  | [] => []
  | item :: items =>
    item.compact ++ (if items.isEmpty then [] else [',']) ++ compactItems items

/-- Fields with commas between them. -/
def compactFields : List (String × Json) → List Char
  | [] => []
  | (name, value) :: fields =>
    quote name ++ ':' :: value.compact ++ (if fields.isEmpty then [] else [','])
      ++ compactFields fields

end

/-- **The compact text of a value.** -/
def text (value : Json) : String := String.ofList value.compact

/-! ## Indented text -/

/-- A new line at an indentation level. -/
def newLine (level : Nat) : List Char := '\n' :: List.replicate (2 * level) ' '

mutual

/-- The characters of the indented text, from a given level. -/
def indented (level : Nat) : Json → List Char
  | .arr (item :: items) =>
    '[' :: newLine (level + 1) ++ item.indented (level + 1) ++ indentedItems (level + 1) items
      ++ newLine level ++ [']']
  | .obj ((name, value) :: fields) =>
    '{' :: newLine (level + 1) ++ quote name ++ ':' :: ' ' :: value.indented (level + 1)
      ++ indentedFields (level + 1) fields ++ newLine level ++ ['}']
  | value => scalarText value

/-- The items after the first. -/
def indentedItems (level : Nat) : List Json → List Char
  | [] => []
  | item :: items => ',' :: newLine level ++ item.indented level ++ indentedItems level items

/-- The fields after the first. -/
def indentedFields (level : Nat) : List (String × Json) → List Char
  | [] => []
  | (name, value) :: fields =>
    ',' :: newLine level ++ quote name ++ ':' :: ' ' :: value.indented level
      ++ indentedFields level fields

end

/-- **The indented text of a value.** -/
def prettyText (value : Json) : String := String.ofList (value.indented 0)

end Narrative.Json
