import Tileboard.Disk

/-!
A disk with the devices of a system.

A device is an empty file to whoever reads it, and a path leads to it as to any file.  What is
written to it is not kept on the disk: it is shown, dropped or refused.
-/

namespace Tileboard

/-- What becomes of a text that is written to a device. -/
inductive Device
  /-- The text is dropped. -/
  | null
  /-- The text is refused, because there is no room for it. -/
  | full
  /-- The device cannot be opened at all. -/
  | absent
  /-- The text is printed. -/
  | output
  /-- The text is reported. -/
  | errors
  deriving DecidableEq, Repr

/-- A disk, what has been printed, and what has been reported. -/
structure Machine where
  disk : Disk
  output : String
  errors : String

/-- The devices of every system. -/
def devices : List (Place × Device) :=
  [(["dev", "null"], .null), (["dev", "zero"], .null), (["dev", "random"], .null),
    (["dev", "urandom"], .null), (["dev", "full"], .full), (["dev", "tty"], .absent),
    (["dev", "stdin"], .null), (["dev", "stdout"], .output), (["dev", "stderr"], .errors),
    (["dev", "fd", "0"], .null), (["dev", "fd", "1"], .output), (["dev", "fd", "2"], .errors),
    (["proc", "self", "fd", "0"], .null), (["proc", "self", "fd", "1"], .output),
    (["proc", "self", "fd", "2"], .errors)]

/-- The folders of every system. -/
def systemFolders : List Place :=
  [["bin"], ["boot"], ["dev"], ["dev", "fd"], ["dev", "pts"], ["dev", "shm"], ["etc"], ["home"],
    ["lib"], ["lib64"], ["media"], ["mnt"], ["opt"], ["proc"], ["proc", "self"],
    ["proc", "self", "fd"], ["root"], ["run"], ["sbin"], ["srv"], ["sys"], ["tmp"], ["usr"],
    ["var"]]

/-- The folders in which nothing can be made. -/
def closedFolders : List Place :=
  [["dev", "fd"], ["proc"]]

namespace Machine

/-- A machine with an empty working folder. -/
def fresh : Machine where
  disk :=
    { entries :=
        systemFolders.map (fun place => (place, .folder)) ++
          devices.map (fun (place, _) => (place, .file .empty)) ++ [(["tmp", "tileboard"], .folder)]
      working := ["tmp", "tileboard"] }
  output := ""
  errors := ""

/-- The place that a path leads to, unless that is a folder in any case. -/
def place? (machine : Machine) (path : String) : Option Place :=
  match machine.disk.locate path with
  | .ok (.name folder name) => some (folder ++ [name])
  | _ => none

/-- The device that a path leads to. -/
def device? (machine : Machine) (path : String) : Option Device :=
  (machine.place? path).bind fun place => devices.lookup place

/-- Whether a path leads to a free place in a closed folder. -/
def isClosed (machine : Machine) (path : String) : Bool :=
  (machine.place? path).any fun place =>
    (machine.disk.lookup place).isNone && closedFolders.any (·.isPrefixOf place)

/-- The text of the file at a path. -/
def readText (machine : Machine) (path : String) : Except AccessError String :=
  match machine.disk.readText path with
  | .error error => .error error
  | .ok text => if machine.device? path = some .absent then .error .noDevice else .ok text

/-- The machine after a text has been written to the file at a path. -/
def writeText (machine : Machine) (path text : String) : Except AccessError Machine :=
  match machine.disk.writeText path text with
  | .error error => .error error
  | .ok disk =>
    match machine.device? path with
    | some .null => .ok machine
    | some .full => .error .noRoom
    | some .absent => .error .noDevice
    | some .output => .ok { machine with output := machine.output ++ text }
    | some .errors => .ok { machine with errors := machine.errors ++ text }
    | none => if machine.isClosed path then .error .notFound else .ok { machine with disk }

/-- The machine with a new folder at a path. -/
def makeFolder (machine : Machine) (path : String) : Except AccessError Machine :=
  match machine.disk.makeFolder path with
  | .error error => .error error
  | .ok disk => if machine.isClosed path then .error .notFound else .ok { machine with disk }

end Machine

instance : FileAccess (StateM Machine) where
  readText path := fun machine => (machine.readText path, machine)
  writeText path text := update fun machine => machine.writeText path text
  makeFolder path := update fun machine => machine.makeFolder path
  isFolder path := fun machine => (machine.disk.isFolder path, machine)

end Tileboard
