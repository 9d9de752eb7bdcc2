import Narrative.Text.Cut

/-!
# Report — a fault of the script, told to its author

A report goes beside the error that a statement ends with: a headline, what happened, and named
details in order, such as the names that may have been meant.
-/

namespace Narrative

/-- **A fault of the script, explained.** -/
structure Report where
  /-- The headline. -/
  title : String
  /-- What happened. -/
  message : String
  /-- Named details, in order. -/
  details : List (String × String)
  deriving DecidableEq, Inhabited

namespace Report

/-- The first detail of a name. -/
def detail? (report : Report) (name : String) : Option String :=
  (report.details.find? (·.1 == name)).map (·.2)

/-- The headline and what happened on one line, then one line for each detail. -/
def text (report : Report) : String :=
  report.title ++ ": " ++ report.message
    ++ String.join (report.details.map fun (name, value) => "\n  " ++ name ++ ": " ++ value)

/-- The detail that lists suggested names, if there are any. -/
def suggestionDetail (names : List String) : List (String × String) :=
  if names.isEmpty then [] else [("Did you mean", Text.join ", " names)]

end Report

end Narrative
