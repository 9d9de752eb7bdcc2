import Narrative.Suggestion.Similarity
import Narrative.Text.Cut
import Narrative.Text.LowerCase

/-!
# Suggestion — the names that may have been meant

Given a name that is not known, each known name gets a **score**, case disregarded: `2` if it starts
with the given name, `1.5` if it contains it elsewhere, and otherwise its similarity, a number from
zero to one.  Names of too low a score are left out.  The others are sorted by their scores, higher
ones first; names of one score stay in the order in which they are known.

How alike two words are is told by a measure, which is `Similarity.score` unless another one is
given.
-/

namespace Narrative.Suggestion

/-! ## Sorting -/

/-- Put an entry in front of the first one that it does not come after. -/
def place {α β : Type} (before : α → α → Bool) (entry : α × β) : List (α × β) → List (α × β)
  | [] => [entry]
  | other :: rest =>
    if before other.1 entry.1 then other :: place before entry rest else entry :: other :: rest

/-- Sort entries by what comes before what; entries of which neither does stay in order. -/
def sort {α β : Type} (before : α → α → Bool) (entries : List (α × β)) : List (α × β) :=
  entries.foldr (place before) []

/-! ## Scores -/

/-- **A measure of how alike two words are.** -/
abbrev Measure := List Char → List Char → Float

/-- **The score of a candidate**, both texts in lower case.  The empty name scores nothing with any
candidate. -/
def score (similarity : Measure) (name candidate : List Char) : Float :=
  if name.isEmpty then 0.0
  else if name.isPrefixOf candidate then 2.0
  else if Text.occurs name candidate then 1.5
  else similarity name candidate

/-- The least score of a name that is suggested. -/
def threshold : Float := 0.6

/-- **The names that may have been meant**: the candidates ranked by their scores, at most `limit`
of them. -/
def suggest (name : String) (candidates : List String) (limit : Nat)
    (similarity : Measure := Similarity.score) : List String :=
  let lowered := Text.lower name.toList
  let scored := candidates.filterMap fun candidate =>
    let value := score similarity lowered (Text.lower candidate.toList)
    if threshold ≤ value then some (value, candidate) else none
  ((sort (fun a b => decide (b < a)) scored).take limit).map (·.2)

/-- How many names a report suggests. -/
def reportLimit : Nat := 3

end Narrative.Suggestion
