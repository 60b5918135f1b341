import Tileboard.Board

/-!
What a board file says: the dimensions, and the cells row by row.

A file may say anything; `BoardFile.check` decides whether it describes a board, and names the
first thing that is wrong.  `Board.file` gives the description of a board.
-/

namespace Tileboard

/-- The content of a board file. -/
structure BoardFile where
  rows : Nat
  cols : Nat
  cells : List (List Cell)
  deriving DecidableEq, Repr

/-- Why the content of a file is no board. -/
inductive ContentError
  | rowCount (found rows : Nat)
  | rowLength (row found cols : Nat)
  | size (error : SizeError)
  | param (row col : Nat) (token : Token)
  deriving DecidableEq, Repr

/-- What is wrong with the content, in words. -/
def ContentError.message : ContentError → String
  | rowCount found rows =>
    "`cells` has " ++ toString found ++ " rows, header says " ++ toString rows
  | rowLength row found cols =>
    "row " ++ toString row ++ " has " ++ toString found ++ " cells, header says " ++ toString cols
  | size error => error.message
  | param row col token =>
    "cell (" ++ toString row ++ ", " ++ toString col ++ ") has param " ++ toString token.param
      ++ " out of range for " ++ token.kind.title

namespace BoardFile

/-- The first row that is not as long as the header says, with its number. -/
def unevenRow? (file : BoardFile) : Option (List Cell × Nat) :=
  file.cells.zipIdx.find? fun (row, _) => row.length != file.cols

/-- The cells in reading order, with their places. -/
def placed (cells : List (List Cell)) : List (Cell × Nat × Nat) :=
  cells.zipIdx.flatMap fun (row, r) => row.zipIdx.map fun (cell, c) => (cell, r, c)

/-- The first tile in reading order whose kind does not have its rotation. -/
def invalidTile? (file : BoardFile) : Option Placement :=
  (placed file.cells).findSome? fun (cell, row, col) =>
    match cell with
    | some token => if token.valid then none else some ⟨row, col, token⟩
    | none => none

/-- The board that the file describes. -/
def check (file : BoardFile) : Except ContentError Board :=
  if file.cells.length ≠ file.rows then .error (.rowCount file.cells.length file.rows)
  else
    match file.unevenRow? with
    | some (row, r) => .error (.rowLength r row.length file.cols)
    | none =>
      match Size.make file.rows file.cols with
      | .error error => .error (.size error)
      | .ok size =>
        match file.invalidTile? with
        | some ⟨row, col, token⟩ => .error (.param row col token)
        | none => .ok ⟨size, file.cells.flatten.toArray⟩

end BoardFile

/-- The description of a board. -/
def Board.file (board : Board) : BoardFile :=
  ⟨board.size.rows, board.size.cols, board.rows⟩

end Tileboard
