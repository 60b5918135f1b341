import Tileboard.Encoding

/-!
What is recorded while a board is made.

The records are a function of the same input as the board: how the packing was chosen, which rows
markers started, and what was placed.
-/

namespace Tileboard

/-- How detailed a record is. -/
inductive Level
  | debug
  | trace
  deriving DecidableEq, Repr

/-- One record of the journal. -/
structure Record where
  level : Level
  message : String
  deriving DecidableEq, Repr

namespace Journal

/-- The record of a row that a marker starts. -/
def rowBreak (b : RowBreak) : Record :=
  ⟨.trace, "line " ++ toString b.lineNumber ++ ": thread marker starts row " ++ toString b.row⟩

/-- The records of the row breaks of a layout. -/
def layingOut (size : Size) (packing : Packing) (lines : List Line) : List Record :=
  (Layout.rowBreaks size packing lines).map rowBreak

/-- The records of a trial of thread rows; none if they are not wanted. -/
def choosing (size : Size) (lines : List Line) : List Record :=
  if Layout.wantsThreadRows size lines then
    let outcome := match (Layout.ofLines size .threadRows lines).rows? with
      | some rows => "thread-row dry run fits in " ++ toString rows ++ " rows"
      | none => "thread-row dry run overflows, falling back to dense packing"
    layingOut size .threadRows lines ++ [⟨.debug, outcome⟩]
  else []

/-- The records of placing lines on a board. -/
def placing (lines : List Line) (size : Size) : List Record :=
  choosing size lines ++
    [⟨.debug, "placing " ++ toString lines.length ++ " tokens into " ++ toString size.rows ++ "x"
      ++ toString size.cols ++ " grid, thread rows: "
      ++ toString (Layout.usesThreadRows size lines)⟩] ++
    layingOut size (Layout.choosePacking size lines) lines

/-- The records of making a board from a script. -/
def encoding (script : String) (size : Size) : List Record :=
  if Script.isBlank script then [⟨.debug, "empty script, using demonstration grid"⟩]
  else
    match Script.read script with
    | .ok lines => placing lines size
    | .error _ => []

/-- The records of loading a board file. -/
def loading (text : String) : List Record :=
  [⟨.debug, "grid file loaded, size: " ++ toString text.utf8ByteSize ++ " bytes"⟩]

end Journal

end Tileboard
