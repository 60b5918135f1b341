import Tileboard.BoardFile.Load
import Tileboard.BoardFile.Printer
import Tileboard.FileAccess
import Tileboard.Labels
import Tileboard.Lanes

/-!
The three commands of the program.

`encode` turns a script into a board file, `decode` turns a board file into one script for the
whole board and one for each thread, and `labels` prints a board.  Each stops at the first failure,
and what was written before it stays.
-/

namespace Tileboard

/-- What the program is asked to do. -/
inductive Command
  | encode (input output : String) (rows cols : Nat)
  | decode (input output : String)
  | labels (input : String)
  deriving DecidableEq, Repr

/-- Why a command failed. -/
inductive CommandError
  | size (error : SizeError)
  | reading (path : String) (error : AccessError)
  | encoding (path : String) (error : ScriptError)
  | writing (path : String) (error : AccessError)
  | loading (error : LoadError)
  | creating (path : String) (error : AccessError)
  | writingScripts (error : AccessError)
  deriving DecidableEq, Repr

/-- What failed and why, in words. -/
def CommandError.message : CommandError → String
  | size error => "Invalid grid size: " ++ error.message
  | reading path error => "Reading " ++ path ++ ": " ++ error.message
  | encoding path error => "Encoding " ++ path ++ ": " ++ error.message
  | writing path error => "Writing " ++ path ++ ": " ++ error.message
  | loading error => "Parsing grid JSON: " ++ error.message
  | creating path error => "Creating " ++ path ++ ": " ++ error.message
  | writingScripts error => "Writing script text: " ++ error.message

namespace Command

variable {m : Type → Type} [Monad m] [FileAccess m]

/-- A request to the file system whose failure is a failure of the command. -/
def request {α : Type} (wrap : AccessError → CommandError) (action : m (Except AccessError α)) :
    ExceptT CommandError m α :=
  ExceptT.mk do return (← action).mapError wrap

/-- A result whose failure is a failure of the command. -/
def demand {ε α : Type} (wrap : ε → CommandError) (result : Except ε α) :
    ExceptT CommandError m α :=
  ExceptT.mk (pure (result.mapError wrap))

/-- The text of a script as its file holds it: with a line feed at the end unless it is empty. -/
def endLine (text : String) : String :=
  if text = "" then "" else text ++ "\n"

/-- The scripts that `decode` writes: the name and the text of each. -/
def scriptFiles (scripts : Lanes String) : List (String × String) :=
  [("script.txt", endLine scripts.flatText), ("thread_1.txt", endLine (scripts.text .first)),
    ("thread_2.txt", endLine (scripts.text .second)),
    ("thread_3.txt", endLine (scripts.text .third))]

/-- Writes files into a folder, one after the other. -/
def writeAll (folder : String) : List (String × String) → ExceptT CommandError m Unit
  | [] => pure ()
  | (name, text) :: rest => do
    request .writingScripts (FileAccess.writeText (inFolder folder name) text)
    writeAll folder rest

/-- The board in a file. -/
def loadBoard (path : String) : ExceptT CommandError m Board := do
  let text ← request (.reading path) (FileAccess.readText path)
  demand .loading (Board.load text)

/-- Carries out a command and gives what it prints. -/
def run : Command → ExceptT CommandError m String
  | encode input output rows cols => do
    let size ← demand .size (Size.make rows cols)
    let script ← request (.reading input) (FileAccess.readText input)
    let board ← demand (.encoding input) (Board.ofScript script size)
    request (.writing output) (FileAccess.writeText output board.fileText)
    return ""
  | decode input output => do
    let board ← loadBoard input
    request (.creating output) (makeFolders output)
    writeAll output (scriptFiles board.scripts)
    return ""
  | labels input => do
    let board ← loadBoard input
    return board.labelTable

end Command

end Tileboard
