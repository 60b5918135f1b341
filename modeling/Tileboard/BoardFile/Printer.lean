import Tileboard.BoardFile
import Tileboard.Text.Numeral

/-!
Board files as text.

The text is a JSON object with one item to a line.  Items are indented by two blanks for each
bracket around them, and a comma ends every item but the last of its bracket.
-/

namespace Tileboard.BoardFile

/-- The blanks in front of an item with so many brackets around it. -/
def indent (depth : Nat) : List Char :=
  List.replicate (2 * depth) ' '

/-- Items between two brackets that stand at the given depth, one to a line. -/
def printItems (openBracket closeBracket : Char) (depth : Nat) (items : List (List Char)) :
    List Char :=
  if items.isEmpty then [openBracket, closeBracket]
  else
    openBracket :: '\n' ::
      [',', '\n'].intercalate (items.map (indent (depth + 1) ++ ·)) ++
      '\n' :: indent depth ++ [closeBracket]

/-- A name between quotation marks, for names without special characters. -/
def printName (name : String) : List Char :=
  '"' :: name.toList ++ ['"']

/-- A field of an object. -/
def printField (name : String) (value : List Char) : List Char :=
  printName name ++ ':' :: ' ' :: value

/-- A cell, as an item of a row. -/
def printCell : Cell → List Char
  | none => "null".toList
  | some token =>
    printItems '\x7b' '\x7d' 3
      [printField "kind" (printName token.kind.key),
        printField "param" (Text.Numeral.write token.param)]

/-- A row, as an item of the cells. -/
def printRow (row : List Cell) : List Char :=
  printItems '[' ']' 2 (row.map printCell)

/-- The characters of a file. -/
def printChars (file : BoardFile) : List Char :=
  printItems '\x7b' '\x7d' 0
    [printField "rows" (Text.Numeral.write file.rows),
      printField "cols" (Text.Numeral.write file.cols),
      printField "cells" (printItems '[' ']' 1 (file.cells.map printRow))]

/-- The text of a file. -/
def print (file : BoardFile) : String :=
  String.ofList file.printChars

end Tileboard.BoardFile

namespace Tileboard

/-- The text of the file that describes the board. -/
def Board.fileText (board : Board) : String :=
  board.file.print

end Tileboard
