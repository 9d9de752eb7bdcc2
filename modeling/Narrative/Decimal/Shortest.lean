import Narrative.Decimal.Double

/-!
# Decimal/Shortest — the fewest digits that read back

A positive double stands for every real number that rounds to it: those between the midpoints to its
two neighbours, the midpoints included when the significand is even.  Its **shortest decimal** is
`d · 10^k` with the largest `k` for which that interval holds a multiple of `10^k`; of two multiples
the one nearer to the number is taken, and of two equally near ones the even one.

Only the two multiples next to the number need a test, since the interval holds the number.
-/

namespace Narrative.Decimal

/-- The decimal `digits · 10^exponent`. -/
structure Scientific where
  /-- The digits, read as one natural number. -/
  digits : Nat
  /-- The power of ten of the last digit. -/
  exponent : Int
  deriving DecidableEq

/-- A power; one for a negative exponent. -/
def power (base : Nat) (exponent : Int) : Nat := Nat.pow base exponent.toNat

/-- Compare `d · 10^k` with `n · 2^q`, exactly. -/
def compareScaled (d : Nat) (k : Int) (n : Nat) (q : Int) : Ordering :=
  compare (d * power 10 k * power 2 (-q)) (n * power 2 q * power 10 (-k))

/-- The largest `d` with `d · 10^k ≤ n · 2^q`. -/
def floorScaled (n : Nat) (q k : Int) : Nat :=
  n * power 2 q * power 10 (-k) / (power 10 k * power 2 (-q))

/-- **The rounding interval** of `4m · 2^q`: its ends in units of `2^q`, and whether they belong. -/
structure Interval where
  /-- The number itself, in units of `2^q`. -/
  middle : Nat
  /-- The midpoint to the next smaller number. -/
  low : Nat
  /-- The midpoint to the next larger number. -/
  high : Nat
  /-- The unit is `2^q`. -/
  q : Int
  /-- Whether the ends belong to the interval. -/
  closed : Bool

/-- The rounding interval of a positive double. -/
def Interval.of (x : Double) : Interval :=
  let m := x.significand
  { middle := 4 * m
    low := 4 * m - (if x.isBoundary then 1 else 2)
    high := 4 * m + 2
    q := x.exponent - 2
    closed := m % 2 == 0 }

/-- Whether `d · 10^k` lies in the interval. -/
def Interval.holds (i : Interval) (d : Nat) (k : Int) : Bool :=
  let overLow := compareScaled d k i.low i.q
  let underHigh := compareScaled d k i.high i.q
  (overLow == .gt || (i.closed && overLow == .eq))
    && (underHigh == .lt || (i.closed && underHigh == .eq))

/-- Of `d · 10^k` and `(d + 1) · 10^k`, around the middle, the nearer one; on a tie the even one. -/
def Interval.nearer (i : Interval) (d : Nat) (k : Int) : Nat :=
  match compareScaled (2 * d + 1) k (2 * i.middle) i.q with
  | .gt => d
  | .lt => d + 1
  | .eq => if d % 2 == 0 then d else d + 1

/-- The multiple of `10^k` that stands for the interval, if it holds one next to its middle. -/
def Interval.onGrid? (i : Interval) (k : Int) : Option Nat :=
  let d := floorScaled i.middle i.q k
  match i.holds d k, i.holds (d + 1) k with
  | true, true => some (i.nearer d k)
  | true, false => some d
  | false, true => some (d + 1)
  | false, false => none

/-- Go down from the grid of `10^k`, through at most `steps` grids, to the first with a hit. -/
def Interval.search (i : Interval) : Nat → Int → Scientific
  | 0, k => ⟨floorScaled i.middle i.q k, k⟩
  | steps + 1, k =>
    match i.onGrid? k with
    | some d => ⟨d, k⟩
    | none => i.search steps (k - 1)

/-- A power of ten that exceeds `n · 2^q`: `30103 / 100000` exceeds the decimal logarithm of two. -/
def gridAbove (n : Nat) (q : Int) : Int := (n.log2 + q + 1) * 30103 / 100000 + 1

/-- **The shortest decimal of a positive double.**  Seventeen digits always read back, so thirty
grids are more than enough. -/
def shortest (x : Double) : Scientific :=
  let i := Interval.of x
  i.search 30 (gridAbove i.middle i.q)

end Narrative.Decimal
