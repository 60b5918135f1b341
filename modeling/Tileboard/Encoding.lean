import Tileboard.Layout

/-!
From scripts to boards.

A script is read, packed and placed as a whole: there is a board only if every line is a command and
has a cell.  A script of blanks alone stands for a short demonstration, so a new board is never
empty.
-/

namespace Tileboard

namespace Board

/-- The board with the lines packed in the given way. -/
def pack (size : Size) (packing : Packing) (lines : List Line) : Except ScriptError Board :=
  let layout := Layout.ofLines size packing lines
  match layout.rows? with
  | some _ => .ok ((empty size).place layout.placed)
  | none => .error (.overflow size.rows)

/-- The board of some lines. -/
def ofLines (lines : List Line) (size : Size) : Except ScriptError Board :=
  pack size (Layout.choosePacking size lines) lines

/-- The board of some tiles, one line for each. -/
def ofTokens (tokens : List Token) (size : Size) : Except ScriptError Board :=
  ofLines (Script.ofTokens tokens) size

/-- The tiles that a script of blanks stands for. -/
def demoProgram : List Token :=
  [.plain .thread1, ⟨.loop, 3⟩, .plain .play, .plain .endLoop]

/-- The board of the demonstration, which is packed densely. -/
def demo (size : Size) : Except ScriptError Board :=
  pack size .dense (Script.ofTokens demoProgram)

/-- The board of a script. -/
def ofScript (script : String) (size : Size) : Except ScriptError Board :=
  if Script.isBlank script then demo size
  else
    match Script.read script with
    | .error error => .error error
    | .ok lines => ofLines lines size

end Board

end Tileboard
