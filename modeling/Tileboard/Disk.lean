import Tileboard.FileAccess

/-!
Files and folders as a value.

A disk maps places to entries, and a place is the list of names that leads to it from the root.  A
path is resolved name by name, from the root or from the working folder, and each name but the last
must be a folder.  The requests of `FileAccess` answer as a plain file system without links does.
-/

namespace Tileboard

/-- The names that lead to an entry from the root. -/
abbrev Place := List String

/-- What is at a place. -/
inductive Entry
  | folder
  | file (bytes : ByteArray)

/-- A tree of files and folders, and the folder in which paths begin that do not start at its
root. -/
structure Disk where
  entries : List (Place × Entry)
  working : Place

namespace Disk

/-- What is at a place; the root is always there. -/
def lookup (disk : Disk) (place : Place) : Option Entry :=
  if place = [] then some .folder
  else (disk.entries.find? fun (other, _) => other == place).map (·.2)

/-- The disk with an entry put at a place. -/
def put (disk : Disk) (place : Place) (entry : Entry) : Disk :=
  { disk with entries := (place, entry) :: disk.entries.filter fun (other, _) => other != place }

theorem lookup_put_self (disk : Disk) {place : Place} (h : place ≠ []) (entry : Entry) :
    (disk.put place entry).lookup place = some entry := by
  simp [lookup, put, h]

theorem lookup_put_of_ne (disk : Disk) {place other : Place} (h : other ≠ place) (entry : Entry) :
    (disk.put place entry).lookup other = disk.lookup other := by
  have hne : (place == other) = false := by simpa using fun e : place = other => h e.symm
  simp only [lookup, put, List.find?_cons, hne, List.find?_filter]
  congr 3
  funext entry
  by_cases he : entry.1 = other <;> simp [he, h]

/-! ## The working folder -/

/-- The disk with an entry put at a place in the working folder, and with folders around it where
there is nothing. -/
def add (disk : Disk) (names : List String) (entry : Entry) : Disk :=
  let around := ((List.range names.length).drop 1).map fun n => disk.working ++ names.take n
  let disk := around.foldl (fun disk place =>
    if (disk.lookup place).isSome then disk else disk.put place .folder) disk
  disk.put (disk.working ++ names) entry

/-- All that is in the working folder, at any depth, with the names that lead to it from there. -/
def content (disk : Disk) : List (List String × Entry) :=
  disk.entries.filterMap fun (place, entry) =>
    if disk.working.isPrefixOf place && disk.working != place then
      some (place.drop disk.working.length, entry)
    else none

/-! ## Paths -/

/-- The most bytes that a name can have. -/
def nameLimit : Nat :=
  255

/-- The most bytes that a path can have. -/
def pathLimit : Nat :=
  4095

/-- What a name stands for in a folder. -/
def find (disk : Disk) (folder : Place) (name : String) : Except AccessError (Option Entry) :=
  if nameLimit < name.utf8ByteSize then .error .nameTooLong
  else .ok (disk.lookup (folder ++ [name]))

/-- The folder that names lead to from a folder. -/
def enter (disk : Disk) (folder : Place) : List String → Except AccessError Place
  | [] => .ok folder
  | name :: rest =>
    if name = "." then disk.enter folder rest
    else if name = ".." then disk.enter folder.dropLast rest
    else
      match disk.find folder name with
      | .error error => .error error
      | .ok (some .folder) => disk.enter (folder ++ [name]) rest
      | .ok (some (.file _)) => .error .notFolder
      | .ok none => .error .notFound

/-- The folder that names lead to from where the path begins, which must not be too long. -/
def enterFrom (disk : Disk) (path : String) (names : List String) : Except AccessError Place :=
  if pathLimit < path.utf8ByteSize then .error .nameTooLong
  else disk.enter (if isAbsolute path then [] else disk.working) names

/-- What the last name of a path stands for. -/
inductive Target
  /-- A folder that is there in any case. -/
  | folder
  /-- A name in a folder, which may be free. -/
  | name (folder : Place) (name : String)
  deriving DecidableEq, Repr

/-- What a path stands for, once all names but the last have been entered. -/
def locate (disk : Disk) (path : String) : Except AccessError Target :=
  let names := pathNames path
  match disk.enterFrom path names.dropLast with
  | .error error => .error error
  | .ok folder =>
    match names.getLast? with
    | none => .ok .folder
    | some last => .ok (if last = "." ∨ last = ".." then .folder else .name folder last)

/-! ## Requests -/

/-- Whether a path leads to a folder. -/
def isFolder (disk : Disk) (path : String) : Bool :=
  (disk.enterFrom path (pathNames path)).isOk

/-- The bytes of the file at a path. -/
def read (disk : Disk) (path : String) : Except AccessError ByteArray :=
  match disk.locate path with
  | .error error => .error error
  | .ok .folder => .error .isFolder
  | .ok (.name folder name) =>
    match disk.find folder name with
    | .error error => .error error
    | .ok none => .error .notFound
    | .ok (some .folder) => .error .isFolder
    | .ok (some (.file bytes)) => if endsInSlash path then .error .notFolder else .ok bytes

/-- The text of the file at a path. -/
def readText (disk : Disk) (path : String) : Except AccessError String :=
  match disk.read path with
  | .error error => .error error
  | .ok bytes =>
    match String.fromUTF8? bytes with
    | some text => .ok text
    | none => .error .notText

/-- The disk with a text in the file at a path. -/
def writeText (disk : Disk) (path text : String) : Except AccessError Disk :=
  match disk.locate path with
  | .error error => .error error
  | .ok .folder => .error .isFolder
  | .ok (.name folder name) =>
    if endsInSlash path then .error .isFolder
    else
      match disk.find folder name with
      | .error error => .error error
      | .ok (some .folder) => .error .isFolder
      | .ok _ => .ok (disk.put (folder ++ [name]) (.file text.toUTF8))

/-- The disk with a new folder at a path. -/
def makeFolder (disk : Disk) (path : String) : Except AccessError Disk :=
  match disk.locate path with
  | .error error => .error error
  | .ok .folder => .error .alreadyExists
  | .ok (.name folder name) =>
    match disk.find folder name with
    | .error error => .error error
    | .ok (some _) => .error .alreadyExists
    | .ok none => .ok (disk.put (folder ++ [name]) .folder)

end Disk

/-- A request that changes the state only if it succeeds. -/
def update {σ : Type} (request : σ → Except AccessError σ) : StateM σ (Except AccessError Unit) :=
  fun state =>
    match request state with
    | .ok state => (.ok (), state)
    | .error error => (.error error, state)

instance : FileAccess (StateM Disk) where
  readText path := fun disk => (disk.readText path, disk)
  writeText path text := update fun disk => disk.writeText path text
  makeFolder path := update fun disk => disk.makeFolder path
  isFolder path := fun disk => (disk.isFolder path, disk)

end Tileboard
