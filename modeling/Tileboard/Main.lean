import Tileboard.CommandLine

/-!
The program: the command line over the files of the system.
-/

namespace Tileboard

/-- The reason for a failure of the system. -/
def AccessError.ofSystem : IO.Error → AccessError
  | .noFileOrDirectory .. => .notFound
  | .alreadyExists .. => .alreadyExists
  | .inappropriateType _ code _ => if code = 21 ∨ code = -21 then .isFolder else .notFolder
  | .invalidArgument _ code _ =>
    if code = 36 ∨ code = -36 then .nameTooLong else .other "invalid argument"
  | error => .other (toString error)

/-- The result of a request to the system, or the reason for its failure. -/
def attempt {α : Type} (action : IO α) : IO (Except AccessError α) := do
  try
    return .ok (← action)
  catch error =>
    return .error (.ofSystem error)

instance : FileAccess IO where
  readText path := do
    match ← attempt (IO.FS.readBinFile path) with
    | .error error => return .error error
    | .ok bytes =>
      match String.fromUTF8? bytes with
      | some text => return .ok text
      | none => return .error .notText
  writeText path text := attempt (IO.FS.writeFile path text)
  makeFolder path := attempt (IO.FS.createDir path)
  isFolder path := do
    match ← attempt (IO.FS.realPath path) with
    | .ok path => path.isDir
    | .error _ => return false

end Tileboard

/-- Does what the arguments ask for. -/
def main (arguments : List String) : IO UInt32 := do
  let outcome ← Tileboard.CommandLine.execute arguments
  IO.print outcome.output
  IO.eprint outcome.errors
  return outcome.exitCode.toUInt32
