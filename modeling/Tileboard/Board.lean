import Tileboard.Size
import Tileboard.Token

/-!
Boards: a rectangle of cells, each empty or holding one tile.

The cells stand in one array, row after row, so the cell at `row` and `col` has the index
`row * cols + col`.  A board is `WellFormed` when it has one cell for each place of its size and
every tile is valid; `set` keeps that, because it refuses what would break it.
-/

namespace Tileboard

/-- What stands in one cell. -/
abbrev Cell := Option Token

/-- A tile and where it stands. -/
structure Placement where
  row : Nat
  col : Nat
  token : Token
  deriving DecidableEq, Repr

/-- A board of some size, its cells row after row. -/
structure Board where
  size : Size
  cells : Array Cell
  deriving DecidableEq, Repr

namespace Board

/-- The board without tiles. -/
def empty (size : Size) : Board :=
  ⟨size, Array.replicate size.area none⟩

/-- The board has a cell for each place of its size, and its tiles are valid. -/
structure WellFormed (board : Board) : Prop where
  size_cells : board.cells.size = board.size.area
  valid_of_mem : ∀ token, some token ∈ board.cells → token.valid = true

/-- The index of a cell, if the board has it. -/
def index? (board : Board) (row col : Nat) : Option Nat :=
  if row < board.size.rows ∧ col < board.size.cols then some (row * board.size.cols + col) else none

/-- What stands in a cell; nothing stands outside the board. -/
def get (board : Board) (row col : Nat) : Cell :=
  match board.index? row col with
  | some i => (board.cells[i]?).join
  | none => none

/-- Whether a cell may hold the content: every tile in it is valid. -/
def accepts (cell : Cell) : Bool :=
  cell.all Token.valid

/-- The board with another content in one cell; none if the cell or the content is refused. -/
def set? (board : Board) (row col : Nat) (cell : Cell) : Option Board :=
  if accepts cell then
    (board.index? row col).map fun i => { board with cells := board.cells.setIfInBounds i cell }
  else none

/-- The board with another content in one cell, and as it was where that is refused. -/
def set (board : Board) (row col : Nat) (cell : Cell) : Board :=
  (board.set? row col cell).getD board

/-- The board with the tiles put on it one after the other. -/
def place (board : Board) (placements : List Placement) : Board :=
  placements.foldl (fun board p => board.set p.row p.col (some p.token)) board

/-- The cells of one row, if the board has it. -/
def row? (board : Board) (row : Nat) : Option (List Cell) :=
  (board.index? row 0).map fun start =>
    (board.cells.extract start (start + board.size.cols)).toList

/-- The cells of all rows, top to bottom. -/
def rows (board : Board) : List (List Cell) :=
  (List.range board.size.rows).map fun row => (board.row? row).getD []

/-- The tiles with their places, in reading order. -/
def placements (board : Board) : List Placement :=
  board.cells.toList.zipIdx.filterMap fun (cell, i) =>
    cell.map fun token => ⟨i / board.size.cols, i % board.size.cols, token⟩

/-- The tiles in reading order. -/
def tokens (board : Board) : List Token :=
  board.cells.toList.filterMap id

/-- Whether no cell holds a tile. -/
def isEmpty (board : Board) : Bool :=
  board.cells.all Option.isNone

theorem placements_map_token (board : Board) : board.placements.map (·.token) = board.tokens := by
  suffices h : ∀ (cells : List Cell) (n cols : Nat),
      ((cells.zipIdx n).filterMap fun (cell, i) =>
        cell.map fun token => (⟨i / cols, i % cols, token⟩ : Placement)).map (·.token)
        = cells.filterMap id from h _ 0 _
  intro cells
  induction cells with
  | nil => intros; rfl
  | cons cell cells ih =>
    intro n cols
    cases cell <;> simp [List.zipIdx_cons, ih]

end Board

end Tileboard
