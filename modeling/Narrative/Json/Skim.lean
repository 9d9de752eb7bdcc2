import Narrative.Json.Reader

/-!
# Json/Skim — passing over a value

A value that nobody asks for is passed over: it has to be written in the grammar of the data format,
but what it says does not matter.  So it may be nested however deep, its numbers may be too large
for any double, and its numbered characters need not be characters.
-/

namespace Narrative.Json.Skim

/-! ## Numbers and texts -/

/-- Pass over digits, at least one. -/
def digits (cs : List Char) : Option (List Char) :=
  match cs with
  | c :: _ => if c.isDigit then some (cs.dropWhile Char.isDigit) else none
  | [] => none

/-- Pass over an exponent, if there is one. -/
def exponent : List Char → Option (List Char)
  | 'e' :: '+' :: rest | 'E' :: '+' :: rest | 'e' :: '-' :: rest | 'E' :: '-' :: rest => digits rest
  | 'e' :: rest | 'E' :: rest => digits rest
  | cs => some cs

/-- Pass over a fraction, if there is one, and an exponent. -/
def fraction : List Char → Option (List Char)
  | '.' :: rest => (digits rest).bind exponent
  | cs => exponent cs

/-- Pass over a number after its sign; it has no needless zero in front. -/
def unsigned : List Char → Option (List Char)
  | '0' :: c :: rest => if c.isDigit then none else fraction (c :: rest)
  | cs => (digits cs).bind fraction

/-- Pass over the characters of a text and its closing quote. -/
def quoted : List Char → Option (List Char)
  | [] => none
  | '"' :: rest => some rest
  | '\\' :: 'u' :: a :: b :: c :: d :: rest =>
    if (Reader.hexQuad [a, b, c, d]).isSome then quoted rest else none
  | '\\' :: e :: rest => if (Reader.simpleEscape? e).isSome then quoted rest else none
  | c :: rest => if c.toNat < 32 then none else quoted rest

/-- Pass over a value without parts. -/
def scalar : List Char → Option (List Char)
  | 'n' :: 'u' :: 'l' :: 'l' :: rest => some rest
  | 't' :: 'r' :: 'u' :: 'e' :: rest => some rest
  | 'f' :: 'a' :: 'l' :: 's' :: 'e' :: rest => some rest
  | '"' :: rest => quoted rest
  | '-' :: rest => unsigned rest
  | cs => unsigned cs

/-- Pass over a name and its colon. -/
def name : List Char → Option (List Char)
  | '"' :: rest =>
    match (quoted rest).map Reader.skipSpaces with
    | some (':' :: rest) => some rest
    | _ => none
  | _ => none

/-! ## Values -/

/-- A list or an object that is not closed yet. -/
inductive Part where
  /-- A list. -/
  | items
  /-- An object. -/
  | fields

/-- What comes next. -/
inductive Turn where
  /-- A value. -/
  | value
  /-- What follows a value. -/
  | after

/-- **Pass over a value** inside the lists and objects that are open, the innermost first, and over
the rest of these. -/
def value : (fuel : Nat) → (inside : List Part) → Turn → List Char → Option (List Char)
  | 0, _, _, _ => none
  | _ + 1, [], .after, cs => some cs
  | fuel + 1, .items :: inside, .after, cs =>
    match Reader.skipSpaces cs with
    | ']' :: rest => value fuel inside .after rest
    | ',' :: rest => value fuel (.items :: inside) .value rest
    | _ => none
  | fuel + 1, .fields :: inside, .after, cs =>
    match Reader.skipSpaces cs with
    | '}' :: rest => value fuel inside .after rest
    | ',' :: rest =>
      match name (Reader.skipSpaces rest) with
      | some rest => value fuel (.fields :: inside) .value rest
      | none => none
    | _ => none
  | fuel + 1, inside, .value, cs =>
    match Reader.skipSpaces cs with
    | '[' :: rest =>
      match Reader.skipSpaces rest with
      | ']' :: rest => value fuel inside .after rest
      | rest => value fuel (.items :: inside) .value rest
    | '{' :: rest =>
      match Reader.skipSpaces rest with
      | '}' :: rest => value fuel inside .after rest
      | rest =>
        match name rest with
        | some rest => value fuel (.fields :: inside) .value rest
        | none => none
    | cs =>
      match scalar cs with
      | some rest => value fuel inside .after rest
      | none => none

end Narrative.Json.Skim
