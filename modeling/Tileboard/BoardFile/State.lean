import Tileboard.BoardFile
import Tileboard.BoardFile.NumberScan
import Tileboard.BoardFile.StringScan

/-!
The states of a reader of board files.

A state says what may come next and holds all that has been read.  The brackets around a place are
a value of their own: a tile that is open knows the row that is open around it, the row knows the
cells, and the cells know the file.  Values of unknown fields are skipped; of them only the open
brackets are kept.
-/

namespace Tileboard.BoardFile

/-- The fields of a file. -/
inductive FileField
  | rows
  | cols
  | cells
  deriving DecidableEq, Repr

/-- The fields of a tile. -/
inductive TokenField
  | kind
  | param
  deriving DecidableEq, Repr

/-- The name of the field. -/
def FileField.name : FileField → String
  | rows => "rows"
  | cols => "cols"
  | cells => "cells"

/-- The name of the field. -/
def TokenField.name : TokenField → String
  | kind => "kind"
  | param => "param"

/-- The fields, in order. -/
def FileField.all : List FileField :=
  [rows, cols, cells]

/-- The fields, in order. -/
def TokenField.all : List TokenField :=
  [kind, param]

/-- How the fields of a file or a tile are given: each with its name, or in order. -/
inductive Form
  | named
  | listed
  deriving DecidableEq, Repr

/-- A file whose closing bracket has not been read. -/
structure OpenFile where
  form : Form
  rows : Option Nat
  cols : Option Nat
  cells : Option (List (List Cell))
  deriving DecidableEq, Repr

/-- Cells of a file whose closing bracket has not been read. -/
structure OpenCells where
  file : OpenFile
  rows : Array (List Cell)
  deriving DecidableEq, Repr

/-- A row of cells whose closing bracket has not been read. -/
structure OpenRow where
  cells : OpenCells
  row : Array Cell
  deriving DecidableEq, Repr

/-- A tile whose closing bracket has not been read. -/
structure OpenToken where
  row : OpenRow
  form : Form
  kind : Option Kind
  param : Option Nat
  deriving DecidableEq, Repr

/-- A file with nothing in it yet. -/
def OpenFile.start (form : Form) : OpenFile :=
  ⟨form, none, none, none⟩

/-- Whether the field has been read. -/
def OpenFile.has (f : OpenFile) : FileField → Bool
  | .rows => f.rows.isSome
  | .cols => f.cols.isSome
  | .cells => f.cells.isSome

/-- The first field that has not been read. -/
def OpenFile.missing? (f : OpenFile) : Option FileField :=
  FileField.all.find? fun field => !f.has field

/-- The number of fields that have been read. -/
def OpenFile.count (f : OpenFile) : Nat :=
  FileField.all.countP f.has

/-- A tile with nothing in it yet. -/
def OpenToken.start (row : OpenRow) (form : Form) : OpenToken :=
  ⟨row, form, none, none⟩

/-- Whether the field has been read. -/
def OpenToken.has (t : OpenToken) : TokenField → Bool
  | .kind => t.kind.isSome
  | .param => t.param.isSome

/-- The first field that has not been read. -/
def OpenToken.missing? (t : OpenToken) : Option TokenField :=
  TokenField.all.find? fun field => !t.has field

/-- The number of fields that have been read. -/
def OpenToken.count (t : OpenToken) : Nat :=
  TokenField.all.countP t.has

/-- The row with one more cell. -/
def OpenRow.push (r : OpenRow) (cell : Cell) : OpenRow :=
  { r with row := r.row.push cell }

/-- The cells with one more row. -/
def OpenCells.push (m : OpenCells) (row : List Cell) : OpenCells :=
  { m with rows := m.rows.push row }

/-- The brackets of a skipped value. -/
inductive Bracket
  | list
  | object
  deriving DecidableEq, Repr

/-- What has the field whose value is skipped. -/
inductive Owner
  | file (f : OpenFile)
  | token (t : OpenToken)
  deriving DecidableEq, Repr

/-- The innermost brackets that are open, with all that is around them. -/
inductive Container
  | file (f : OpenFile)
  | cells (m : OpenCells)
  | row (r : OpenRow)
  | token (t : OpenToken)
  | skipped (innermost : Bracket) (outer : List Bracket) (owner : Owner)
  deriving DecidableEq, Repr

/-- What comes next between two brackets: the first item or none, what follows an item, or the item
that a comma announces. -/
inductive Gap
  | first
  | afterItem
  | afterComma
  deriving DecidableEq, Repr

/-- A value that must come next. -/
inductive Wanted
  | file
  | rows (f : OpenFile)
  | cols (f : OpenFile)
  | cells (f : OpenFile)
  | row (m : OpenCells)
  | cell (r : OpenRow)
  | kind (t : OpenToken)
  /-- The value that belongs to a kind given as the only name in an object. -/
  | unit (t : OpenToken) (kind : Kind)
  | param (t : OpenToken)
  | skipped (outer : List Bracket) (owner : Owner)
  deriving DecidableEq, Repr

/-- The words that stand for themselves. -/
inductive Literal
  | null
  | yes
  | no
  deriving DecidableEq, Repr

/-- What a literal is read for; a refused one is read to its end before it is reported. -/
inductive LiteralUse
  | emptyCell (r : OpenRow)
  | unit (t : OpenToken) (kind : Kind)
  | skipped (outer : List Bracket) (owner : Owner)
  | refused (expected : Expected)
  deriving DecidableEq, Repr

/-- What a number is read for. -/
inductive NumberUse
  | rows (f : OpenFile)
  | cols (f : OpenFile)
  | param (t : OpenToken)
  | skipped (outer : List Bracket) (owner : Owner)
  | refused (expected : Expected)
  deriving DecidableEq, Repr

/-- What a string is read for. -/
inductive StringUse
  | fileKey (f : OpenFile)
  | tokenKey (t : OpenToken)
  | kind (t : OpenToken)
  /-- A kind given as the only name in an object. -/
  | kindKey (t : OpenToken)
  | skippedKey (outer : List Bracket) (owner : Owner)
  | skipped (outer : List Bracket) (owner : Owner)
  | refused (expected : Expected)
  deriving DecidableEq, Repr

/-- What has been read of a text, and what may come next. -/
inductive State
  | value (wanted : Wanted)
  | inside (gap : Gap) (c : Container)
  | colon (wanted : Wanted)
  | literal (which : Literal) (left : List Char) (use : LiteralUse)
  | number (n : NumberScan) (use : NumberUse)
  | string (s : StringScan) (use : StringUse)
  /-- Behind the bracket that opens a kind given as the only name in an object. -/
  | kindOpen (t : OpenToken)
  /-- In front of the bracket that closes such a kind. -/
  | kindClose (t : OpenToken) (kind : Kind)
  | done (file : BoardFile)
  deriving DecidableEq, Repr

/-- The state in front of a text. -/
def State.start : State :=
  .value .file

end Tileboard.BoardFile
