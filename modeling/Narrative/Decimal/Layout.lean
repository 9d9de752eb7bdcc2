import Narrative.Decimal.Shortest

/-!
# Decimal/Layout — how a decimal is laid out as text

The digits of a number leave open where the point goes and when an exponent is written.  A
**layout** is the record of these decisions; `Layout.text` carries them out.
-/

namespace Narrative.Decimal

/-- **The decisions on the text of a number.** -/
structure Layout where
  /-- The least power of ten of the first digit that is written without an exponent. -/
  leastPlain : Int
  /-- The greatest power of ten of the first digit that is written without an exponent. -/
  greatestPlain : Int
  /-- What follows the digits of a whole number written without an exponent. -/
  wholeMark : List Char
  /-- What stands in front of the exponent. -/
  exponentMark : List Char
  /-- What stands in front of an exponent that is not negative. -/
  plusMark : List Char

/-- The decimal digits of a number. -/
def digitsOf (n : Nat) : List Char := Nat.toDigits 10 n

/-- Digits with the point after the first `whole` of them, filled up with zeros. -/
def Layout.plain (layout : Layout) (digits : List Char) (power : Int) : List Char :=
  if power < 0 then
    '0' :: '.' :: List.replicate (-power - 1).toNat '0' ++ digits
  else
    let whole := power.toNat + 1
    if digits.length ≤ whole then
      digits ++ List.replicate (whole - digits.length) '0' ++ layout.wholeMark
    else digits.take whole ++ '.' :: digits.drop whole

/-- One digit, the other digits after a point, and the exponent. -/
def Layout.scientific (layout : Layout) (digits : List Char) (power : Int) : List Char :=
  let mantissa := match digits with
    | [] => []
    | [d] => [d]
    | d :: more => d :: '.' :: more
  let sign := if power < 0 then ['-'] else layout.plusMark
  mantissa ++ layout.exponentMark ++ sign ++ digitsOf power.natAbs

/-- The text of `digits · 10^exponent`. -/
def Layout.unsigned (layout : Layout) (s : Scientific) : List Char :=
  let digits := digitsOf s.digits
  let power := s.exponent + (digits.length - 1 : Nat)
  if layout.leastPlain ≤ power ∧ power ≤ layout.greatestPlain then layout.plain digits power
  else layout.scientific digits power

/-- **The text of a double**: its shortest decimal, laid out, after its sign. -/
def Layout.text (layout : Layout) (x : Double) : List Char :=
  (if x.isNegative then ['-'] else [])
    ++ (if x.isZero then layout.plain ['0'] 0 else layout.unsigned (shortest x))

end Narrative.Decimal
