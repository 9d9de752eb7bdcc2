/-!
# Text/Numeral — unsigned numbers written in decimal

A **numeral** is one or more decimal digits, with an optional plus sign in front; leading zeros are
allowed and a value above the given limit is refused.  Numbers are written without sign and without
leading zeros.
-/

namespace Narrative.Text.Numeral

/-- The largest unsigned number of 32 bits. -/
def max32 : Nat := 4294967295

/-- The largest unsigned number of 64 bits. -/
def max64 : Nat := 18446744073709551615

/-- The value of a decimal digit. -/
def digit? (c : Char) : Option Nat :=
  if '0' ≤ c ∧ c ≤ '9' then some (c.toNat - '0'.toNat) else none

/-- The value of a hexadecimal digit. -/
def hexDigit? (c : Char) : Option Nat :=
  if '0' ≤ c ∧ c ≤ '9' then some (c.toNat - 48)
  else if 'a' ≤ c ∧ c ≤ 'f' then some (c.toNat - 87)
  else if 'A' ≤ c ∧ c ≤ 'F' then some (c.toNat - 55)
  else none

/-- The value of a run of digits read after `value`. -/
def readDigits? (value : Nat) : List Char → Option Nat
  | [] => some value
  | c :: cs => (digit? c).bind fun d => readDigits? (10 * value + d) cs

/-- The value of one or more digits. -/
def readSome? : List Char → Option Nat
  | [] => none
  | cs => readDigits? 0 cs

/-- **The value of a numeral** that does not exceed `limit`. -/
def read? (limit : Nat) (cs : List Char) : Option Nat :=
  let value := match cs with
    | '+' :: rest => readSome? rest
    | _ => readSome? cs
  value.filter (· ≤ limit)

/-- The value of a text that is a numeral not above `limit`. -/
def ofText? (limit : Nat) (text : String) : Option Nat := read? limit text.toList

/-- A number in decimal. -/
def text (n : Nat) : String := toString n

/-- A number with an optional minus sign, in decimal. -/
def signedText : Int → String
  | .ofNat n => text n
  | .negSucc n => "-" ++ text (n + 1)

end Narrative.Text.Numeral
