import Narrative.Store.Directory

/-!
# Terminal/Disk — files by path

A **disk** holds files and directories.  A path is followed one name at a time: every name has to
exist, only a directory can be left for one above or below it, and neither a name nor a path may be
too long.  A path that leads nowhere is either **missing** something or **refused**; the difference
matters when a directory is made together with those that lead to it.
-/

namespace Narrative.Terminal

/-! ## Places and routes -/

/-- **A place on a disk**: the names that lead to it.  The working directory is the empty list; an
empty name in front stands for the root. -/
abbrev Place := List String

namespace Place

/-- The root of the disk. -/
def root : Place := [""]

/-- The place above.  Nothing is known of what is above the working directory: it counts as the
root. -/
def above : Place → Place
  | [] => root
  | [""] => root
  | place => place.dropLast

/-- The path of a place from the working directory. -/
def path (place : Place) : String := Text.join "/" place

/-- The place of a path that goes straight to it. -/
def ofPath (path : String) : Place := Text.splitAt path '/'

/-- What a place is in a directory: a name, and whether the place is right there. -/
def nameIn? (folder place : Place) : Option (String × Bool) :=
  if folder.isPrefixOf place then
    match place.drop folder.length with
    | [] => none
    | name :: rest => if name = "" then none else some (name, rest.isEmpty)
  else none

end Place

/-- **A route**: where it begins, and the names to follow from there. -/
structure Route where
  /-- The first place. -/
  start : Place
  /-- The names, empty ones and points among them. -/
  names : List String

namespace Route

/-- The route of a path. -/
def ofPath (path : String) : Route :=
  ⟨if path.toList.head? = some '/' then Place.root else [], Text.splitAt path '/'⟩

/-- The routes that lead to a route, the nearest first. -/
def leads (route : Route) : List Route :=
  let names := route.names.filter fun name => name ≠ "" ∧ name ≠ "."
  ((List.range names.length).drop 1).reverse.map fun n => ⟨route.start, names.take n⟩

end Route

/-- **Why a path leads nowhere.** -/
inductive DeadEnd where
  /-- A name on the way does not exist. -/
  | missing
  /-- Something is in the way, or a name or the path is too long. -/
  | refused
  deriving DecidableEq

/-! ## Disks -/

/-- **Files and directories.** -/
structure Disk where
  /-- The text of each file, by its path from the working directory. -/
  files : Table String
  /-- The directories that were made.  One that leads to a file is there without being made. -/
  folders : List Place := []

namespace Disk

/-- Whether a file is at a place. -/
def isFile (disk : Disk) (place : Place) : Bool := disk.files.has place.path

/-- Whether a directory is at a place. -/
def isFolder (disk : Disk) (place : Place) : Bool :=
  place = [] || place = Place.root || disk.folders.contains place
    || disk.files.keys.any fun path => (place.nameIn? (Place.ofPath path)).isSome

/-- Go from a directory along a name. -/
def enter (disk : Disk) (place : Place) (name : String) : Except DeadEnd Place :=
  if name = "" ∨ name = "." then .ok place
  else if name = ".." then .ok place.above
  else if maxNameSize < name.utf8ByteSize then .error .refused
  else
    let next := place ++ [name]
    if disk.isFile next || disk.isFolder next then .ok next else .error .missing

/-- **Follow names** from a place. -/
def follow (disk : Disk) (place : Place) : List String → Except DeadEnd Place
  | [] => .ok place
  | name :: names =>
    if disk.isFile place then .error .refused
    else
      match disk.enter place name with
      | .ok next => disk.follow next names
      | .error deadEnd => .error deadEnd

/-- Whether a route ends at a directory. -/
def endsAtFolder (disk : Disk) (route : Route) : Bool :=
  match disk.follow route.start route.names with
  | .ok place => disk.isFolder place
  | .error _ => false

/-- The place that a route would make: its last name, in the directory that the others lead to. -/
def newPlace (disk : Disk) (route : Route) : Except DeadEnd Place :=
  match disk.follow route.start route.names.dropLast, route.names.getLast? with
  | .error deadEnd, _ => .error deadEnd
  | .ok _, none => .error .refused
  | .ok place, some name =>
    if disk.isFile place ∨ name = "" ∨ name = "." ∨ name = ".." ∨ maxNameSize < name.utf8ByteSize
    then .error .refused
    else .ok (place ++ [name])

/-- The text of the file of a path. -/
def fileText? (disk : Disk) (path : String) : Option String :=
  if path = "" ∨ maxPathSize < path.utf8ByteSize then none
  else
    let route := Route.ofPath path
    match disk.follow route.start route.names with
    | .ok place => disk.files.get? place.path
    | .error _ => none

/-- Write the file of a path, if that can be. -/
def withFile? (disk : Disk) (path text : String) : Option Disk :=
  if path = "" ∨ maxPathSize < path.utf8ByteSize then none
  else
    match disk.newPlace (Route.ofPath path) with
    | .ok place =>
      if disk.isFolder place then none
      else some { disk with files := disk.files.insert place.path text }
    | .error _ => none

/-! ## Making directories -/

/-- Make the directory at the end of a route, where nothing may be yet.  Strokes at the end are
passed over. -/
def make (disk : Disk) (route : Route) : Except DeadEnd Disk :=
  let names := (route.names.reverse.dropWhile (· = "")).reverse
  match disk.newPlace { route with names } with
  | .error deadEnd => .error deadEnd
  | .ok place =>
    if disk.isFile place || disk.isFolder place then .error .refused
    else .ok { disk with folders := disk.folders ++ [place] }

/-- Make a directory unless it is there. -/
def ensure (disk : Disk) (route : Route) : Option Disk :=
  match disk.make route with
  | .ok made => some made
  | .error _ => if disk.endsAtFolder route then some disk else none

/-- Make a directory, the first, and if something is missing, those that lead to it. -/
def ensureAll (disk : Disk) : List Route → Option Disk
  | [] => some disk
  | route :: leads =>
    match disk.make route with
    | .ok made => some made
    | .error .refused => if disk.endsAtFolder route then some disk else none
    | .error .missing => (disk.ensureAll leads).bind (·.ensure route)

/-! ## Laying out files -/

/-- Write the file of a path, and make the directories that lead to it where they are not there
yet.  Where that cannot be, nothing is written. -/
def lay (disk : Disk) (path text : String) : Disk :=
  ((disk.ensureAll (Route.ofPath path).leads).bind (·.withFile? path text)).getD disk

/-- **A disk with files**, laid out one after the other. -/
def ofFiles (files : List (String × String)) : Disk :=
  files.foldl (fun disk (path, text) => disk.lay path text) { files := Table.empty }

/-! ## Directories as stores -/

/-- **The directory at a place**, as a store; `lead` bytes stand in front of its names in paths. -/
def storeAt (disk : Disk) (place : Place) (lead : Nat) : DirStore :=
  let files := disk.files.entries.filterMap fun (path, text) =>
    (place.nameIn? (Place.ofPath path)).map fun (name, here) =>
      (name, if here then DirEntry.file text else .folder)
  let folders := disk.folders.filterMap fun other =>
    (place.nameIn? other).map fun (name, _) => (name, DirEntry.folder)
  { entries := Table.ofFields (files ++ folders), lead }

/-- Put the files of a store back into the directory at a place. -/
def putStore (disk : Disk) (place : Place) (store : DirStore) : Disk :=
  let others : Fields String := disk.files.entries.filter fun (path, _) =>
    (place.nameIn? (Place.ofPath path)).all fun (_, here) => !here
  let written := store.entries.entries.filterMap fun (name, entry) =>
    match entry with
    | .file text => some (Place.path (place ++ [name]), text)
    | .folder => none
  { disk with files := Table.ofFields (others ++ written) }

/-- **Open a directory as a store**, and make it and those that lead to it where they are not there
yet: the disk then, the place of the directory, and the store. -/
def openStore? (disk : Disk) (path : String) : Option (Disk × Place × DirStore) :=
  if maxPathSize < path.utf8ByteSize then none
  else
    let route := Route.ofPath path
    (disk.ensureAll (route :: route.leads)).bind fun disk =>
      match disk.follow route.start route.names with
      | .ok place =>
        some (disk, place, disk.storeAt place
          (if path.toList.getLast? = some '/' then path.utf8ByteSize else path.utf8ByteSize + 1))
      | .error _ => none

end Disk

end Narrative.Terminal
