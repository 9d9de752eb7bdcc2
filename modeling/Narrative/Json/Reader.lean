import Narrative.Json.Basic
import Narrative.Text.Numeral

/-!
# Json/Reader — values read from text

The reader follows the grammar of the data format: blanks between tokens, no comma before a closing
bracket, no leading zeros, no bare control characters in a text, surrogates only in pairs.  Lists
and objects may be nested at most `maxNesting` deep.

An integer between the least 64-bit signed and the greatest 64-bit unsigned number is exact; every
other number is a double, and so is the negative zero.  A double is read from at most the first
digits that fit 64 bits, scaled by **one power of ten**, so that two roundings can happen.
-/

namespace Narrative.Json.Reader

/-- A reader takes a value off the front of the characters and returns the rest. -/
abbrev Scan (α : Type) := List Char → Option (α × List Char)

/-! ## Blanks and literals -/

/-- The four characters that may stand between tokens. -/
def isSpace (c : Char) : Bool := c == ' ' || c == '\n' || c == '\t' || c == '\r'

/-- Skip what may stand between tokens. -/
def skipSpaces (cs : List Char) : List Char := cs.dropWhile isSpace

/-! ## Numbers -/

/-- The digits at the front. -/
def digits (cs : List Char) : List Nat × List Char :=
  ((cs.takeWhile Char.isDigit).map (fun c => c.toNat - 48), cs.dropWhile Char.isDigit)

/-- Add digits to a number for as long as it fits 64 bits; return the number and the digits left. -/
def accumulate (value : Nat) : List Nat → Nat × List Nat
  | [] => (value, [])
  | d :: ds =>
    if 10 * value + d ≤ Text.Numeral.max64 then accumulate (10 * value + d) ds else (value, d :: ds)

/-- A power of ten from `10^0` to `10^308`. -/
def powerOfTen (n : Nat) : Float := Float.ofScientific 1 false n

/-- Scale by a power of ten, by at most `10^308` at a time; refuse what is too large. -/
def scale (x : Float) (exponent : Int) : Nat → Option Float
  | 0 => none
  | rounds + 1 =>
    if exponent.natAbs ≤ 308 then
      if 0 ≤ exponent then
        let scaled := x * powerOfTen exponent.natAbs
        if scaled.isInf then none else some scaled
      else some (x / powerOfTen exponent.natAbs)
    else if x == 0 then some x
    else if 0 ≤ exponent then none
    else scale (x / powerOfTen 308) (exponent + 308) rounds

/-- The double `± significand · 10^exponent`. -/
def double (negative : Bool) (significand : Nat) (exponent : Int) : Option Json :=
  (scale (UInt64.ofNat significand).toFloat exponent (exponent.natAbs / 308 + 2)).map fun x =>
    .float (Double.ofFloat (if negative then -x else x))

/-- The largest exponent that is read exactly, as a signed number of 32 bits. -/
def maxExponent : Nat := 2147483647

/-- The number of exponent digits, or none when it exceeds `maxExponent`. -/
def exponentValue? (value : Nat) : List Nat → Option Nat
  | [] => some value
  | d :: ds => if 10 * value + d ≤ maxExponent then exponentValue? (10 * value + d) ds else none

/-- An exponent within the range of 32-bit signed numbers. -/
def clampExponent (e : Int) : Int := max (-2147483648) (min maxExponent e)

/-- The exponent part, after its letter, of `significand · 10^base`. -/
def exponentPart (negative : Bool) (significand : Nat) (base : Int) (cs : List Char) :
    Option (Json × List Char) :=
  let (down, cs) := match cs with
    | '+' :: rest => (false, rest)
    | '-' :: rest => (true, rest)
    | _ => (false, cs)
  match digits cs with
  | ([], _) => none
  | (ds, rest) =>
    match exponentValue? 0 ds with
    | some e =>
      let exponent := clampExponent (if down then base - e else base + e)
      (double negative significand exponent).map (·, rest)
    | none =>
      if significand ≠ 0 ∧ !down then none
      else some (.float (Double.ofFloat (if negative then -0.0 else 0.0)), rest)

/-- What follows the digits of a double: an exponent, or nothing. -/
def doubleTail (negative : Bool) (significand : Nat) (base : Int) (cs : List Char) :
    Option (Json × List Char) :=
  match cs with
  | 'e' :: rest | 'E' :: rest => exponentPart negative significand base rest
  | _ => (double negative significand base).map (·, cs)

/-- The fraction, after its point, of `significand · 10^base`. -/
def fractionPart (negative : Bool) (significand : Nat) (base : Int) (cs : List Char) :
    Option (Json × List Char) :=
  match digits cs with
  | ([], _) => none
  | (ds, rest) =>
    let (full, left) := accumulate significand ds
    doubleTail negative full (base - (ds.length - left.length : Nat)) rest

/-- The largest number whose negation is a signed number of 64 bits. -/
def maxNegated : Nat := 9223372036854775808

/-- A number after its sign. -/
def unsignedNumber (negative : Bool) (cs : List Char) : Option (Json × List Char) :=
  match digits cs with
  | ([], _) => none
  | (0 :: _ :: _, _) => none
  | (ds, rest) =>
    let (value, left) := accumulate 0 ds
    match rest with
    | '.' :: rest => fractionPart negative value left.length rest
    | _ =>
      let marked := match rest with
        | 'e' :: _ | 'E' :: _ => true
        | _ => false
      if !left.isEmpty || marked then doubleTail negative value left.length rest
      else if !negative then some (.int value, rest)
      else if 0 < value ∧ value ≤ maxNegated then some (.int (-(value : Int)), rest)
      else (double negative value 0).map (·, rest)

/-- A number. -/
def number : Scan Json
  | '-' :: rest => unsignedNumber true rest
  | cs => unsignedNumber false cs

/-! ## Texts -/

/-- Four hexadecimal digits. -/
def hexQuad : Scan Nat
  | a :: b :: c :: d :: rest => do
    let a ← Text.Numeral.hexDigit? a
    let b ← Text.Numeral.hexDigit? b
    let c ← Text.Numeral.hexDigit? c
    let d ← Text.Numeral.hexDigit? d
    return (((a * 16 + b) * 16 + c) * 16 + d, rest)
  | _ => none

/-- What a backslash and one letter stand for. -/
def simpleEscape? (c : Char) : Option Char :=
  if c = '"' ∨ c = '\\' ∨ c = '/' then some c
  else if c = 'n' then some '\n'
  else if c = 'r' then some '\r'
  else if c = 't' then some '\t'
  else if c = 'b' then some '\x08'
  else if c = 'f' then some '\x0c'
  else none

/-- A numbered character, after its backslash and letter: one quad, or a high and a low surrogate.
-/
def numbered : Scan Char := fun cs => do
  let (high, rest) ← hexQuad cs
  if 0xDC00 ≤ high ∧ high ≤ 0xDFFF then none
  else if 0xD800 ≤ high ∧ high ≤ 0xDBFF then
    match rest with
    | '\\' :: 'u' :: rest =>
      let (low, rest) ← hexQuad rest
      if 0xDC00 ≤ low ∧ low ≤ 0xDFFF then
        return (Char.ofNat ((high - 0xD800) * 0x400 + (low - 0xDC00) + 0x10000), rest)
      else none
    | _ => none
  else return (Char.ofNat high, rest)

/-- The characters of a text up to its closing quote; `fuel` bounds their number. -/
def quoted : Nat → Scan (List Char)
  | 0, _ => none
  | _ + 1, [] => none
  | fuel + 1, c :: cs =>
    if c = '"' then some ([], cs)
    else if c = '\\' then
      match cs with
      | [] => none
      | 'u' :: rest => do
        let (d, rest) ← numbered rest
        let (ds, rest) ← quoted fuel rest
        return (d :: ds, rest)
      | e :: rest => do
        let d ← simpleEscape? e
        let (ds, rest) ← quoted fuel rest
        return (d :: ds, rest)
    else if c.toNat < 32 then none
    else do
      let (ds, rest) ← quoted fuel cs
      return (c :: ds, rest)

/-! ## Values -/

/-- A literal word. -/
def literal (word : List Char) (value : Json) (cs : List Char) : Option (Json × List Char) :=
  if word.isPrefixOf cs then some (value, cs.drop word.length) else none

/-- A value without parts. -/
def scalar (fuel : Nat) (cs : List Char) : Option (Json × List Char) :=
  match cs with
  | [] => none
  | 'n' :: _ => literal ['n', 'u', 'l', 'l'] .null cs
  | 't' :: _ => literal ['t', 'r', 'u', 'e'] (.bool true) cs
  | 'f' :: _ => literal ['f', 'a', 'l', 's', 'e'] (.bool false) cs
  | '"' :: rest => (quoted fuel rest).map fun (s, rest) => (.str (String.ofList s), rest)
  | _ => number cs

/-- The items from a place on, up to the closing bracket, each read for its place. -/
def moreItems (item : Nat → Scan Json) : (fuel : Nat) → (place : Nat) → Scan (List Json)
  | 0, _, _ => none
  | fuel + 1, place, cs =>
    match skipSpaces cs with
    | ']' :: rest => some ([], rest)
    | ',' :: rest => do
      let (value, rest) ← item place (skipSpaces rest)
      let (values, rest) ← moreItems item fuel (place + 1) rest
      return (value :: values, rest)
    | _ => none

/-- A list, after its opening bracket. -/
def list (item : Nat → Scan Json) (fuel : Nat) (cs : List Char) : Option (Json × List Char) :=
  match skipSpaces cs with
  | ']' :: rest => some (.arr [], rest)
  | cs => do
    let (value, rest) ← item 0 cs
    let (values, rest) ← moreItems item fuel 1 rest
    return (.arr (value :: values), rest)

/-- A name, a colon and a value, read for its name. -/
def namedValue (item : String → Scan Json) (fuel : Nat) : Scan (String × Json)
  | '"' :: rest => do
    let (name, rest) ← quoted fuel rest
    match skipSpaces rest with
    | ':' :: rest =>
      let (value, rest) ← item (String.ofList name) (skipSpaces rest)
      return ((String.ofList name, value), rest)
    | _ => none
  | _ => none

/-- The fields after the first, up to the closing brace. -/
def moreFields (item : String → Scan Json) (textFuel : Nat) : Nat → Scan (List (String × Json))
  | 0, _ => none
  | fuel + 1, cs =>
    match skipSpaces cs with
    | '}' :: rest => some ([], rest)
    | ',' :: rest => do
      let (field, rest) ← namedValue item textFuel (skipSpaces rest)
      let (fields, rest) ← moreFields item textFuel fuel rest
      return (field :: fields, rest)
    | _ => none

/-- The fields of an object, after its opening brace. -/
def fields (item : String → Scan Json) (fuel : Nat) : Scan (List (String × Json)) := fun cs =>
  match skipSpaces cs with
  | '}' :: rest => some ([], rest)
  | cs => do
    let (field, rest) ← namedValue item fuel cs
    let (fields, rest) ← moreFields item fuel fuel rest
    return (field :: fields, rest)

/-- An object, after its opening brace. -/
def object (item : String → Scan Json) (fuel : Nat) (cs : List Char) : Option (Json × List Char) :=
  (fields item fuel cs).map fun (fields, rest) => (.obj fields, rest)

/-- A value with at most `depth` levels of lists and objects. -/
def value (fuel : Nat) : Nat → Scan Json
  | 0, cs =>
    match cs with
    | '[' :: _ | '{' :: _ => none
    | _ => scalar fuel cs
  | depth + 1, cs =>
    match cs with
    | '[' :: rest => list (fun _ => value fuel depth) fuel rest
    | '{' :: rest => object (fun _ => value fuel depth) fuel rest
    | _ => scalar fuel cs

/-- The deepest nesting of lists and objects. -/
def maxNesting : Nat := 127

/-- A whole document: one value, read in a given way, and nothing behind it. -/
def document (root : Scan Json) (cs : List Char) : Option Json :=
  match root (skipSpaces cs) with
  | some (found, rest) => if (skipSpaces rest).isEmpty then some found else none
  | none => none

end Narrative.Json.Reader

namespace Narrative.Json

/-- **The value that a text is.**  Of repeated names the last value is kept. -/
def read? (text : String) : Option Json :=
  let cs := text.toList
  (Reader.document (Reader.value (cs.length + 1) Reader.maxNesting) cs).map settle

end Narrative.Json
