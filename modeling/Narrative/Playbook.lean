import Narrative.Script
import Narrative.Settings

/-!
# Playbook — what stays fixed while statements run

The script, the settings and the preferences are at hand for every statement and changed by none
whose hooks and callbacks are on the world; only the host changes them, between calls.
-/

namespace Narrative

/-- **What stays fixed while statements run.** -/
structure Playbook (σ : Type := World) where
  /-- The script. -/
  script : Script σ := Script.empty
  /-- The author's settings. -/
  settings : Settings := {}
  /-- The player's preferences. -/
  preferences : Preferences := {}
  deriving Inhabited

namespace Playbook

variable {σ : Type}

/-- The language being played; a script for one language needs none. -/
def language (book : Playbook σ) : String :=
  if book.settings.multiLanguage then book.preferences.language else ""

/-- The statements of a label. -/
def label? (book : Playbook σ) (name : String) : Option (List (Statement σ)) :=
  book.script.label? book.language name

/-- Whether a label exists. -/
def hasLabel (book : Playbook σ) (name : String) : Bool := (book.label? name).isSome

/-- The names of the labels, in order. -/
def labelNames (book : Playbook σ) : List String := book.script.labelNames book.language

/-- The number of statements of a label; a missing label has none. -/
def labelLength (book : Playbook σ) (name : String) : Nat :=
  ((book.label? name).map List.length).getD 0

/-- The statement at a position. -/
def statement? (book : Playbook σ) (cursor : Cursor) : Option (Statement σ) :=
  book.script.statement? book.language cursor

/-- The statement at the position of a world. -/
def current? (book : Playbook σ) (world : World) : Option (Statement σ) :=
  book.statement? world.cursor

/-- **Fill in the placeholders of a text** from a world's storage. -/
def substitute (book : Playbook σ) (world : World) (text : String) : Except Fault String :=
  match Template.fill world.storage book.settings.unresolved text with
  | .ok filled => .ok filled
  | .error path => .error (.unresolvedPath path)

end Playbook

end Narrative
