import Tileboard.BoardFile.Reader

/-!
Loading boards from the text of their files: reading the text, then checking what it says.
-/

namespace Tileboard

/-- Why a text is not the file of a board. -/
inductive LoadError
  | text (fault : BoardFile.Fault)
  | content (error : ContentError)
  deriving DecidableEq, Repr

/-- What is wrong with the text, in words. -/
def LoadError.message : LoadError → String
  | text fault => "Failed to parse grid JSON: " ++ fault.message
  | content error => error.message

/-- The board whose file has the given text. -/
def Board.load (text : String) : Except LoadError Board :=
  match BoardFile.read text with
  | .error fault => .error (.text fault)
  | .ok file =>
    match file.check with
    | .error error => .error (.content error)
    | .ok board => .ok board

end Tileboard
