import Narrative.World
import Narrative.Json.Writer
import Narrative.Text.Blank

/-!
# Script — statements, by label and language

A script gives every **label** a list of statements.  A statement is a line of text, a record with
named parts, or a callback of the host.  A script for several languages has one set of labels for
each of them; one for a single language disregards the language asked for.

Callbacks are computations on some state `σ`: on the world, unless another one is named.
-/

namespace Narrative

/-- **One step of a script.** -/
inductive Statement (σ : Type := World) where
  /-- A line of text, read as words. -/
  | text (line : String)
  /-- An object, told by the names it has. -/
  | record (fields : Fields Json)
  /-- A computation of the host's own. -/
  | callback (run : EStateM Fault σ Unit)

namespace Statement

variable {σ : Type}

/-- The record of a value; a value that is no object becomes the field `value` of one. -/
def ofRecord : Json → Statement
  | .obj fields => record fields
  | value => record [("value", value)]

/-- Read a statement: a text or an object. -/
def ofJson? : Json → Option Statement
  | .str line => some (text line)
  | .obj fields => some (record fields)
  | _ => none

/-- The line of a text. -/
def asText? : Statement σ → Option String
  | text line => some line
  | _ => none

/-- The fields of a record. -/
def asRecord? : Statement σ → Option (Fields Json)
  | record fields => some fields
  | _ => none

/-- The first word of a text as it stands in the script. -/
def keyword? (statement : Statement σ) : Option String := statement.asText?.bind Text.firstWord?

/-- A short form for people. -/
def describe : Statement σ → String
  | text line => line
  | record fields => (Json.obj fields).text
  | callback _ => "<callback>"

end Statement

/-- **Labels and their statements.** -/
abbrev Labels (σ : Type := World) := Table (List (Statement σ))

/-- Read an object of lists of statements. -/
def Labels.ofJson? : Json → Option Labels := Json.tableOf (Json.listOf Statement.ofJson?)

/-- **A script**, for a single language or for several. -/
inductive Script (σ : Type := World) where
  /-- One set of labels. -/
  | single (labels : Labels σ)
  /-- A set of labels for each language. -/
  | multi (languages : Table (Labels σ))

namespace Script

variable {σ : Type}

/-- No labels. -/
def empty : Script σ := single Table.empty

instance : Inhabited (Script σ) := ⟨empty⟩

/-- Read a script for several languages, or for one. -/
def ofJson? (multiLanguage : Bool) (value : Json) : Option Script :=
  if multiLanguage then (Json.tableOf Labels.ofJson? value).map multi
  else (Labels.ofJson? value).map single

/-- Whether the script has several languages. -/
def isMulti : Script → Bool
  | single _ => false
  | multi _ => true

/-- The labels in a language. -/
def labels? : Script σ → String → Option (Labels σ)
  | single labels, _ => some labels
  | multi languages, language => languages.get? language

/-- **The statements of a label in a language.** -/
def label? (script : Script σ) (language name : String) : Option (List (Statement σ)) :=
  (script.labels? language).bind (·.get? name)

/-- The statement at a position. -/
def statement? (script : Script σ) (language : String) (cursor : Cursor) : Option (Statement σ) :=
  (script.label? language cursor.label).bind (·[cursor.step]?)

/-- The names of the labels in a language, in order. -/
def labelNames (script : Script σ) (language : String) : List String :=
  ((script.labels? language).map Table.keys).getD []

/-- The languages of a script that has several, in order. -/
def languages : Script → List String
  | single _ => []
  | multi languages => languages.keys

/-- Define a label.  A language that is new gets a set of labels. -/
def setLabel (script : Script) (language name : String) (statements : List Statement) : Script :=
  match script with
  | single labels => single (labels.insert name statements)
  | multi languages =>
    multi (languages.insert language
      (((languages.get? language).getD Table.empty).insert name statements))

/-- **Merge another script over this one.**  Labels of the other win.  A script for one language is
merged into each language that is there; one for several languages replaces a script for one. -/
def merge : Script → Script → Script
  | single mine, single theirs => single (mine.union theirs)
  | multi mine, multi theirs =>
    multi (theirs.entries.foldl
      (fun acc (language, labels) =>
        acc.insert language (((acc.get? language).getD Table.empty).union labels)) mine)
  | multi mine, single theirs => multi (mine.map (·.union theirs))
  | single _, multi theirs => multi theirs

end Script

end Narrative
