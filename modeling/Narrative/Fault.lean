import Narrative.Cursor

/-!
# Fault — why a statement, a move or a save did not succeed

Every failure is a **cause** with its data; `message` words it.  A **rejection** is the one expected
kind: a guard of an action refuses, and a player's wish to move is then simply not granted.
-/

namespace Narrative

/-- **Why a store did not do what it was asked.** -/
inductive StoreFault where
  /-- Nothing is stored under the key. -/
  | notFound (key : String)
  /-- The key cannot name a file. -/
  | invalidKey (key : String)
  /-- The file could not be read or written. -/
  | fileAccess
  /-- The file does not hold a value. -/
  | notJson
  deriving DecidableEq, Inhabited

/-- The words of a store's failure. -/
def StoreFault.message : StoreFault → String
  | notFound key => "no value stored under '" ++ key ++ "'"
  | invalidKey key => "invalid store key '" ++ key ++ "'"
  | fileAccess => "store I/O failed: the file cannot be read or written"
  | notJson => "stored value is not valid JSON: the text cannot be read"

/-- **Why a statement, a move or a save did not succeed.** -/
inductive Fault where
  /-- A guard refused. -/
  | rejected (reason : String)
  /-- A statement names a label that does not exist. -/
  | unresolvedTarget (label : String)
  /-- There is no statement at the cursor. -/
  | noStatement (cursor : Cursor)
  /-- No action accepts the statement. -/
  | noMatch (statement : String)
  /-- The statement before the cursor cannot be undone. -/
  | irreversible (cursor : Cursor)
  /-- One call came to run more statements than it may. -/
  | chainLimit (limit : Nat) (cursor : Cursor)
  /-- A callback failed. -/
  | callback (text : String)
  /-- A placeholder leads nowhere, and the settings refuse that. -/
  | unresolvedPath (path : String)
  /-- A snapshot or a save slot cannot be read. -/
  | invalidSnapshot
  /-- The store failed. -/
  | store (fault : StoreFault)
  /-- A script, or a value kept by an action, cannot be read. -/
  | invalidScript
  deriving DecidableEq, Inhabited

namespace Fault

/-- A refusal without a particular reason. -/
def refused : Fault := rejected "guard not met"

/-- Whether a guard refused, as opposed to a failure of the story. -/
def isRejection : Fault → Bool
  | rejected _ => true
  | _ => false

/-- **The words of a fault.** -/
def message : Fault → String
  | rejected reason => "statement rejected: " ++ reason
  | unresolvedTarget label => "label not found: \"" ++ label ++ "\""
  | noStatement cursor => "no statement at " ++ cursor.text
  | noMatch statement => "no action matches statement: " ++ statement
  | irreversible cursor => "statement at " ++ cursor.text ++ " cannot be reverted"
  | chainLimit limit cursor =>
    "chain exceeded " ++ Text.Numeral.text limit ++ " statements at " ++ cursor.text
  | callback text => "callback failed: " ++ text
  | unresolvedPath path => "unresolved storage path: \"" ++ path ++ "\""
  | invalidSnapshot => "invalid snapshot: the value cannot be read"
  | store fault => "storage failure: " ++ fault.message
  | invalidScript => "invalid script: the value cannot be read"

end Fault

end Narrative
