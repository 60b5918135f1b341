import Tileboard.Board
import Tileboard.Text.Blank

/-!
Boards as tables of labels.

A cell shows the label of its tile, or a dot.  In the printed table every label but the last of a
row is filled up with blanks to 14 characters.
-/

namespace Tileboard

/-- The label of a cell. -/
def Cell.label : Cell → String
  | some token => token.label
  | none => "."

namespace Board

/-- The labels of the cells, row by row. -/
def labels (board : Board) : List (List String) :=
  board.rows.map fun row => row.map Cell.label

/-- The width of a column of the printed table. -/
def columnWidth : Nat :=
  14

/-- A label as wide as its column. -/
def padLabel (label : String) : List Char :=
  label.toList ++ List.replicate (columnWidth - label.length) ' '

/-- A row of the printed table. -/
def labelLine (labels : List String) : List Char :=
  Text.trimEnd (labels.flatMap padLabel)

/-- The printed table, each row ended by a line feed. -/
def labelTable (board : Board) : String :=
  String.ofList (board.labels.flatMap fun row => labelLine row ++ ['\n'])

end Board

end Tileboard
