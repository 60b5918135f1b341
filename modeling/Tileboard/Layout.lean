import Tileboard.Script
import Tileboard.Board

/-!
Where the tiles of a script go.

A cursor walks the board in reading order and gives each line the next cell.  Dense packing leaves
no cell out; with thread rows, every marker starts a row of its own.  `ofLines` gives the cells in
the order of the lines and, where all lines fit, the number of rows they take.
-/

namespace Tileboard

/-- How tiles are packed on the board. -/
inductive Packing
  | dense
  | threadRows
  deriving DecidableEq, Repr

/-- A place on the way through the board; `col` counts the cells of the row that are behind it. -/
structure Cursor where
  row : Nat
  col : Nat
  deriving DecidableEq, Repr

namespace Cursor

/-- The cursor in front of the first cell. -/
def start : Cursor :=
  ⟨0, 0⟩

/-- The cursor in front of the next row. -/
def nextRow (c : Cursor) : Cursor :=
  ⟨c.row + 1, 0⟩

/-- The cursor behind the cell in front of it. -/
def step (c : Cursor) : Cursor :=
  ⟨c.row, c.col + 1⟩

/-- Whether the packing starts a new row at the line, because it is a marker in mid-row. -/
def breaksRow (packing : Packing) (line : Line) (c : Cursor) : Bool :=
  packing == .threadRows && line.isMarker && c.col != 0

/-- The cursor in front of the line's cell: behind a row break, and not behind the last column. -/
def settle (size : Size) (packing : Packing) (line : Line) (c : Cursor) : Cursor :=
  let c := if c.breaksRow packing line then c.nextRow else c
  if size.cols ≤ c.col then c.nextRow else c

/-- The number of rows that have a cell behind the cursor. -/
def rowsUsed (c : Cursor) : Nat :=
  if c.col = 0 then c.row else c.row + 1

end Cursor

/-- The cells that lines are given, and the number of rows used if all lines have a cell. -/
structure Layout where
  placed : List Placement
  rows? : Option Nat
  deriving DecidableEq, Repr

/-- A row that starts at a marker in mid-row: the marker's line number and the row. -/
structure RowBreak where
  lineNumber : Nat
  row : Nat
  deriving DecidableEq, Repr

namespace Layout

/-- The layout of lines from a cursor on. -/
def ofLinesFrom (size : Size) (packing : Packing) (c : Cursor) : List Line → Layout
  | [] => ⟨[], some c.rowsUsed⟩
  | line :: rest =>
    let cell := c.settle size packing line
    if cell.row < size.rows then
      let after := ofLinesFrom size packing cell.step rest
      ⟨⟨cell.row, cell.col, line.token⟩ :: after.placed, after.rows?⟩
    else ⟨[], none⟩

/-- The layout of lines from the first cell on. -/
def ofLines (size : Size) (packing : Packing) (lines : List Line) : Layout :=
  ofLinesFrom size packing .start lines

/-- The row breaks on the way from a cursor, up to the one that leaves the board. -/
def rowBreaksFrom (size : Size) (packing : Packing) (c : Cursor) : List Line → List RowBreak
  | [] => []
  | line :: rest =>
    let cell := c.settle size packing line
    let later := if cell.row < size.rows then rowBreaksFrom size packing cell.step rest else []
    if c.breaksRow packing line then ⟨line.number, c.row + 1⟩ :: later else later

/-- The row breaks of a layout, in order. -/
def rowBreaks (size : Size) (packing : Packing) (lines : List Line) : List RowBreak :=
  rowBreaksFrom size packing .start lines

/-- Whether thread rows are to be tried: there is a marker, and a cell for every line. -/
def wantsThreadRows (size : Size) (lines : List Line) : Bool :=
  lines.any Line.isMarker && lines.length ≤ size.area

/-- Whether thread rows are wanted and leave a cell for every line. -/
def usesThreadRows (size : Size) (lines : List Line) : Bool :=
  wantsThreadRows size lines && (ofLines size .threadRows lines).rows?.isSome

/-- The packing of a script: thread rows where they can be had. -/
def choosePacking (size : Size) (lines : List Line) : Packing :=
  if usesThreadRows size lines then .threadRows else .dense

end Layout

end Tileboard
