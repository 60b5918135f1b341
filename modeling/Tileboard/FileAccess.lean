/-!
What a command asks of the file system.

Commands read texts, write texts and make folders, and each request can fail for a reason that is a
value.  `FileAccess` is what a monad must offer for commands to run in it, and `makeFolders` makes a
folder together with the folders around it.
-/

namespace Tileboard

/-- Why a request to the file system failed. -/
inductive AccessError
  | notFound
  | alreadyExists
  | notFolder
  | isFolder
  | noDevice
  | noRoom
  | nameTooLong
  | notText
  | other (message : String)
  deriving DecidableEq, Repr

/-- What went wrong, in words. -/
def AccessError.message : AccessError → String
  | notFound => "No such file or directory (os error 2)"
  | alreadyExists => "File exists (os error 17)"
  | notFolder => "Not a directory (os error 20)"
  | isFolder => "Is a directory (os error 21)"
  | noDevice => "No such device or address (os error 6)"
  | noRoom => "No space left on device (os error 28)"
  | nameTooLong => "File name too long (os error 36)"
  | notText => "stream did not contain valid UTF-8"
  | other message => message

/-- Files and folders, addressed by paths. -/
class FileAccess (m : Type → Type) where
  /-- The text of a file. -/
  readText : String → m (Except AccessError String)
  /-- Makes the text all that a file holds, and makes the file if there is none. -/
  writeText : String → String → m (Except AccessError Unit)
  /-- Makes a folder in a folder. -/
  makeFolder : String → m (Except AccessError Unit)
  /-- Whether there is a folder. -/
  isFolder : String → m Bool

/-! ## Paths -/

/-- The names in a path. -/
def pathNames (path : String) : List String :=
  ((path.toList.splitOn '/').map String.ofList).filter (· != "")

/-- Whether a path ends with a slash. -/
def endsInSlash (path : String) : Bool :=
  path.toList.getLast? == some '/'

/-- Whether a path starts at the root. -/
def isAbsolute (path : String) : Bool :=
  path.toList.head? == some '/'

/-- The path of a file in a folder. -/
def inFolder (folder name : String) : String :=
  if endsInSlash folder then folder ++ name else folder ++ "/" ++ name

/-- The names in a path that matter to the folders around it: all but dots behind the first. -/
def significantNames (path : String) : List String :=
  match pathNames path with
  | [] => []
  | first :: rest => first :: rest.filter (· != ".")

/-- The beginnings of a list but itself and the empty one, longest first. -/
def beginnings {α : Type} : List α → List (List α)
  | [] => []
  | [_] => []
  | a :: rest => (beginnings rest).map (a :: ·) ++ [[a]]

/-- The paths of the folders around a path, innermost first. -/
def foldersAround (path : String) : List String :=
  (beginnings (significantNames path)).map fun names =>
    (if isAbsolute path then "/" else "") ++ "/".intercalate names

/-! ## Folders in folders -/

variable {m : Type → Type} [Monad m] [FileAccess m]

/-- The answer to a request for a folder that failed: that is no failure if the folder is there. -/
def unlessFolder (path : String) (error : AccessError) : m (Except AccessError Unit) := do
  return if ← FileAccess.isFolder path then .ok () else .error error

/-- Makes the first folder of a list, each of which is in the one behind it; of those behind it, as
many as do not exist. -/
def makeNested : List String → m (Except AccessError Unit)
  | [] => return .ok ()
  | path :: around => do
    match ← FileAccess.makeFolder path with
    | .ok () => return .ok ()
    | .error .notFound =>
      match ← makeNested around with
      | .error error => return .error error
      | .ok () =>
        match ← FileAccess.makeFolder path with
        | .ok () => return .ok ()
        | .error error => unlessFolder path error
    | .error error => unlessFolder path error

/-- Makes a folder and the folders around it, where they do not exist. -/
def makeFolders (path : String) : m (Except AccessError Unit) :=
  makeNested (path :: foldersAround path)

end Tileboard
