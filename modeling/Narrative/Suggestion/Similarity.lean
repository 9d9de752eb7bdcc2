/-!
# Suggestion/Similarity — how alike two words are

The similarity of two words is a number from zero to one.  Two characters **match** when they are
equal and their places differ by no more than a window; each character matches at most once, the
first free one being taken.  The score averages the matched shares of both words and the share of
matches in the right order.  Words that are alike already and begin alike score a little higher.

The order of the operations on doubles is part of the definition, since rounding depends on it.
-/

namespace Narrative.Similarity

/-- How far apart the places of matching characters may be. -/
def window (a b : List Char) : Nat := max a.length b.length / 2 - 1

/-- Mark the first unmarked `c` among the places from `place` on that lie from `low` to `high`. -/
def markFirst (c : Char) (low high : Nat) :
    Nat → List (Char × Bool) → Option (List (Char × Bool))
  | _, [] => none
  | place, (d, marked) :: rest =>
    if high < place then none
    else if low ≤ place && c == d && !marked then some ((d, true) :: rest)
    else (markFirst c low high (place + 1) rest).map ((d, marked) :: ·)

/-- **Match** the characters of a word, from `place` on, against another: the characters that found
a match, in order, and the other word with its matched characters marked. -/
def matched (w : Nat) :
    Nat → List Char → List (Char × Bool) → List Char × List (Char × Bool)
  | _, [], other => ([], other)
  | place, c :: cs, other =>
    match markFirst c (place - w) (place + w) 0 other with
    | some other =>
      let (found, other) := matched w (place + 1) cs other
      (c :: found, other)
    | none => matched w (place + 1) cs other

/-- The places at which two lists differ. -/
def differences : List Char → List Char → Nat
  | a :: as, b :: bs => (if a == b then 0 else 1) + differences as bs
  | _, _ => 0

/-- The length of the common start of two lists. -/
def commonStart : List Char → List Char → Nat
  | a :: as, b :: bs => if a == b then 1 + commonStart as bs else 0
  | _, _ => 0

/-- A number of characters as a double. -/
def share (n : Nat) : Float := Float.ofNat n

/-- **The score of matches and their order.** -/
def base (a b : List Char) : Float :=
  if a.isEmpty && b.isEmpty then 1.0
  else
    let (found, marked) := matched (window a b) 0 a (b.map (·, false))
    let others := (marked.filter (·.2)).map (·.1)
    let m := found.length
    if m == 0 then 0.0
    else
      let swaps := differences found others / 2
      (share m / share a.length + share m / share b.length + share (m - swaps) / share m) / 3.0

/-- **The similarity of two words**: the score, raised by a common start of up to four characters
when it exceeds `0.7`. -/
def score (a b : List Char) : Float :=
  let sim := base a b
  if sim > 0.7 then sim + 0.1 * share (commonStart (a.take 4) b) * (1.0 - sim) else sim

end Narrative.Similarity
