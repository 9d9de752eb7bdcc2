import Narrative.Store
import Narrative.Json.Reader
import Narrative.Json.Writer
import Narrative.Text.Cut

/-!
# Store/Directory — a store in the files of a directory

Each key has a file of its own, named by the key and the ending `.json`, that holds the indented
text of the value.  A directory is a table of its entries, which are files or directories.  Only a
key of letters, digits, `_`, `-` and `.` that does not begin with a point names a file, and names
and paths of files have a greatest length; but every file of that ending is listed, whatever its
name.

A file that can be reached is written, and deleted, as a whole: a disk that fails half-way is a
store of its own.
-/

namespace Narrative

/-- **An entry of a directory.** -/
inductive DirEntry where
  /-- A file and its text. -/
  | file (text : String)
  /-- A directory. -/
  | folder
  deriving DecidableEq, Inhabited

/-- The most bytes that the name of a file can have. -/
def maxNameSize : Nat := 255

/-- The most bytes that the path of a file can have. -/
def maxPathSize : Nat := 4095

/-- **A store in the files of a directory.** -/
structure DirStore where
  /-- The entries by name. -/
  entries : Table DirEntry
  /-- The bytes that stand in front of a name in the path of its file. -/
  lead : Nat := 0
  deriving Inhabited

namespace DirStore

/-- An empty directory. -/
def empty : DirStore := { entries := Table.empty }

/-- The ending of the files, after its point. -/
def extension : String := "json"

/-- Whether a character may stand in a key. -/
def isKeyChar (c : Char) : Bool :=
  ('a' ≤ c && c ≤ 'z') || ('A' ≤ c && c ≤ 'Z') || ('0' ≤ c && c ≤ '9')
    || c == '_' || c == '-' || c == '.'

/-- **Whether a key names a file.** -/
def isKey (key : String) : Bool :=
  !key.isEmpty && key.toList.head? != some '.' && key.toList.all isKeyChar

/-- The name of the file of a key. -/
def fileName (key : String) : String := key ++ "." ++ extension

/-- A name in reverse, cut at its last point: the ending and what stands before the point. -/
def cutExtension? (name : List Char) : Option (List Char × List Char) :=
  (Text.cut? ['.'] name.reverse).map fun (ending, stem) => (ending.reverse, stem.reverse)

/-- The key of a file name: what stands before the last point, if it is not nothing and the ending
is right. -/
def keyOf? (name : String) : Option String :=
  match cutExtension? name.toList with
  | some (ending, stem) =>
    if ending = extension.toList ∧ stem ≠ [] then some (String.ofList stem) else none
  | none => none

/-- The keys listed, in order.  The order of the keys is not that of the names of their files. -/
def keys (store : DirStore) : List String :=
  (Table.ofFields ((store.entries.keys.filterMap keyOf?).map (·, ()))).keys

/-- Whether a file of a name can be reached in the directory. -/
def reaches (store : DirStore) (name : String) : Bool :=
  name.utf8ByteSize ≤ maxNameSize && store.lead + name.utf8ByteSize ≤ maxPathSize

/-- **What stands under the name of the file of a key**, if anything; a fault when the key names no
file, or one out of reach. -/
def entry? (store : DirStore) (key : String) : Except StoreFault (Option DirEntry) :=
  if isKey key then
    if store.reaches (fileName key) then .ok (store.entries.get? (fileName key))
    else .error .fileAccess
  else .error (.invalidKey key)

/-- The value in the file of a key. -/
def get (store : DirStore) (key : String) : Except StoreFault Json :=
  match store.entry? key with
  | .error fault => .error fault
  | .ok none => .error (.notFound key)
  | .ok (some .folder) => .error .fileAccess
  | .ok (some (.file text)) =>
    match Json.read? text with
    | some value => .ok value
    | none => .error .notJson

/-- Write the file of a key. -/
def set (store : DirStore) (key : String) (value : Json) : Except StoreFault DirStore :=
  match store.entry? key with
  | .error fault => .error fault
  | .ok (some .folder) => .error .fileAccess
  | .ok _ =>
    .ok { store with entries := store.entries.insert (fileName key) (.file value.prettyText) }

/-- Delete the file of a key. -/
def remove (store : DirStore) (key : String) : Except StoreFault DirStore :=
  match store.entry? key with
  | .error fault => .error fault
  | .ok none => .error (.notFound key)
  | .ok (some .folder) => .error .fileAccess
  | .ok (some (.file _)) => .ok { store with entries := store.entries.erase (fileName key) }

/-- A file that can be reached is written, and deleted, as a whole. -/
instance : Store DirStore where
  get := get
  write key value := Store.wholly (set · key value)
  keys := keys
  erase key := Store.wholly (remove · key)
  contains store key := (keys store).contains key

theorem set_def (store : DirStore) (key : String) (value : Json) :
    Store.set store key value = store.set key value :=
  Store.changed_wholly (fun store : DirStore => store.set key value) store

theorem remove_def (store : DirStore) (key : String) :
    Store.remove store key = store.remove key :=
  Store.changed_wholly (fun store : DirStore => store.remove key) store

end DirStore

end Narrative
