/-!
# Terminal/Outcome — what a command leaves behind
-/

namespace Narrative.Terminal

/-- **What a command leaves behind**: an exit code and what it wrote. -/
structure Outcome where
  /-- The exit code. -/
  code : Nat := 0
  /-- What went to the standard output. -/
  output : String := ""
  /-- What went to the standard error output. -/
  errors : String := ""

namespace Outcome

/-- The exit code for arguments that are not understood. -/
def usageCode : Nat := 2

/-- End with an error, after what has been written. -/
def fail (outcome : Outcome) (message : String) : Outcome :=
  { outcome with code := 1, errors := outcome.errors ++ "error: " ++ message ++ "\n" }

/-- Write to the standard output. -/
def write (outcome : Outcome) (text : String) : Outcome :=
  { outcome with output := outcome.output ++ text }

end Outcome

end Narrative.Terminal
