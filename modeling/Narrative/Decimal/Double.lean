/-!
# Decimal/Double — numbers of double precision, by their bits

A **double** is kept as its 64 bits, so that equality of doubles is equality of data.  Its magnitude
is `m · 2^q` for natural `m`, read off the fraction and exponent fields.
-/

namespace Narrative

/-- **A finite number of double precision**, by its 64 bits. -/
structure Double where
  /-- Sign, exponent and fraction fields. -/
  bits : UInt64
  deriving DecidableEq, Inhabited

namespace Double

/-- The double of a machine number. -/
def ofFloat (x : Float) : Double := ⟨x.toBits⟩

/-- How many magnitudes there are: `2^63`, the weight of the sign bit. -/
def magnitudes : Nat := 9223372036854775808

/-- How many fractions there are: `2^52`, the weight of the implied leading one. -/
def fractions : Nat := 4503599627370496

/-- Whether the sign field is set. -/
def isNegative (x : Double) : Bool := magnitudes ≤ x.bits.toNat

/-- The exponent and fraction fields. -/
def magnitude (x : Double) : Nat := x.bits.toNat % magnitudes

/-- Whether the number is one of the two zeros. -/
def isZero (x : Double) : Bool := x.magnitude == 0

/-- **Numerical equality**: the same bits, or two zeros of whatever sign. -/
def same (x y : Double) : Bool := x == y || (x.isZero && y.isZero)

/-- The fraction field. -/
def fraction (x : Double) : Nat := x.magnitude % fractions

/-- The exponent field. -/
def exponentField (x : Double) : Nat := x.magnitude / fractions

/-- **The significand** `m` of the magnitude `m · 2^q`: below the least normal exponent the leading
one is not implied. -/
def significand (x : Double) : Nat :=
  if x.exponentField = 0 then x.fraction else fractions + x.fraction

/-- **The exponent** `q` of the magnitude `m · 2^q`. -/
def exponent (x : Double) : Int := (if x.exponentField = 0 then 1 else x.exponentField : Nat) - 1075

/-- Whether the next smaller magnitude is half as far away as the next larger one. -/
def isBoundary (x : Double) : Bool := x.fraction == 0 && 1 < x.exponentField

end Double

end Narrative
