/-!
# Text/Ranges — classes of characters

A class of characters is given by the **ranges** of their code points, in ascending order.  The
classes follow the Unicode character database.
-/

namespace Narrative.Text

/-- **Ranges of code points**: the first and the last of each. -/
abbrev Ranges := List (Nat × Nat)

/-- Whether a character lies in one of the ranges. -/
def Ranges.has (ranges : Ranges) (c : Char) : Bool :=
  ranges.any fun (first, last) => first ≤ c.toNat && c.toNat ≤ last

end Narrative.Text
