import Narrative.Storage
import Narrative.Json.Writer
import Narrative.Text.Blank

/-!
# Storage/Template — placeholders in a text

A **placeholder** is a path between double braces.  Its value takes its place: a text without its
quotes, any other value as its compact text.  What stands for a path that leads nowhere is a matter
of **policy**.  Inserted text is not read again.

The text is read from left to right.  Opening braces with nothing or a blank before the next closing
braces are no placeholder: they are copied, and reading goes on right after them.  Opening braces
without closing ones end the reading, and the rest of the text is copied.
-/

namespace Narrative

/-- **What stands for a path that leads nowhere.** -/
inductive UnresolvedPolicy where
  /-- The word `undefined`. -/
  | word
  /-- Nothing. -/
  | blank
  /-- No text at all: filling in fails. -/
  | fail
  deriving DecidableEq, Inhabited

namespace UnresolvedPolicy

/-- The name of a policy in settings. -/
def name : UnresolvedPolicy → String
  | word => "literal"
  | blank => "empty"
  | fail => "fail"

/-- The policy of a name. -/
def ofName? (text : String) : Option UnresolvedPolicy :=
  if text = "literal" then some word
  else if text = "empty" then some blank
  else if text = "fail" then some fail
  else none

/-- A policy is read from its name, or from an object that has the name as its only field, with no
value. -/
def ofJson? : Json → Option UnresolvedPolicy
  | .str text => ofName? text
  | .obj [(text, .null)] => ofName? text
  | _ => none

end UnresolvedPolicy

namespace Template

/-- The braces that open a placeholder. -/
def openMark : List Char := ['{', '{']

/-- The braces that close a placeholder. -/
def closeMark : List Char := ['}', '}']

/-- The word that stands for a path that leads nowhere. -/
def undefinedWord : List Char := ['u', 'n', 'd', 'e', 'f', 'i', 'n', 'e', 'd']

/-- The characters inserted for a value. -/
def inserted : Json → List Char
  | .str s => s.toList
  | value => value.compact

/-- The characters for a path, or the path itself when the policy refuses it. -/
def fillPath (storage : Storage) (policy : UnresolvedPolicy) (path : List Char) :
    Except String (List Char) :=
  match storage.resolve? (String.ofList path), policy with
  | some value, _ => .ok (inserted value)
  | none, .word => .ok undefinedWord
  | none, .blank => .ok []
  | none, .fail => .error (String.ofList path)

/-- Whether braces around these characters are a placeholder. -/
def isPath (path : List Char) : Bool := !path.isEmpty && !path.any Text.isBlank

/-- **What to do at the front of a text.** -/
inductive Front where
  /-- Copy everything. -/
  | copyAll
  /-- Copy the two opening braces. -/
  | copyBraces
  /-- Insert the value of a path. -/
  | insert (path : List Char)
  /-- Copy one character. -/
  | copyOne

/-- Look at the front of a text. -/
def front (cs : List Char) : Front :=
  match Text.dropMark? openMark cs with
  | none => .copyOne
  | some after =>
    match Text.cut? closeMark after with
    | none => .copyAll
    | some (path, _) => if isPath path then .insert path else .copyBraces

/-- Fill in what is left after skipping `skip` characters that are already dealt with. -/
def fillFrom (storage : Storage) (policy : UnresolvedPolicy) :
    Nat → List Char → Except String (List Char)
  | _, [] => .ok []
  | skip + 1, _ :: cs => fillFrom storage policy skip cs
  | 0, c :: cs =>
    match front (c :: cs) with
    | .copyAll => .ok (c :: cs)
    | .copyBraces => (fillFrom storage policy 1 cs).map (openMark ++ ·)
    | .insert path =>
      match fillPath storage policy path with
      | .error unresolved => .error unresolved
      | .ok value => (fillFrom storage policy (path.length + 3) cs).map (value ++ ·)
    | .copyOne => (fillFrom storage policy 0 cs).map (c :: ·)

/-- **Fill in every placeholder of a text.**  The error is the path that leads nowhere. -/
def fill (storage : Storage) (policy : UnresolvedPolicy) (text : String) : Except String String :=
  (fillFrom storage policy 0 text.toList).map String.ofList

end Template

end Narrative
