import Tileboard.Text.Ranges

/-!
Blank characters, and the pieces of a text between them.

`isBlank` is the White_Space property.  A text has `lines`, which end at line feeds, and a line has
`words`, which are its longest pieces without a blank; `trim` cuts the blanks at both ends.
`words_append_blank` and `lines_append_newline` say that both split a text at one character into
the pieces before it and the pieces after it.
-/

namespace Tileboard.Text

/-- The characters with the property White_Space. -/
def blankRanges : Ranges :=
  [(0x9, 0xD), (0x20, 0x20), (0x85, 0x85), (0xA0, 0xA0), (0x1680, 0x1680), (0x2000, 0x200A),
    (0x2028, 0x2029), (0x202F, 0x202F), (0x205F, 0x205F), (0x3000, 0x3000)]

/-- Whether the character separates words. -/
def isBlank (c : Char) : Bool :=
  blankRanges.contains c

/-- The text without the blanks at its end. -/
def trimEnd (cs : List Char) : List Char :=
  (cs.reverse.dropWhile isBlank).reverse

/-- The text without the blanks at either end. -/
def trim (cs : List Char) : List Char :=
  trimEnd (cs.dropWhile isBlank)

/-- The words of a text: its longest pieces that hold no blank, the empty ones left out. -/
def words (cs : List Char) : List (List Char) :=
  (cs.splitOnP isBlank).filter fun word => !word.isEmpty

/-- The lines of a text: what stands before, between and after its line feeds. -/
def lines (cs : List Char) : List (List Char) :=
  cs.splitOnP (· == '\n')

/-! ## Splitting at one character -/

theorem words_append_blank {c : Char} (hc : isBlank c = true) (xs ys : List Char) :
    words (xs ++ c :: ys) = words xs ++ words ys := by
  simp [words, List.splitOnP_append_cons xs ys hc]

theorem lines_append_newline (xs ys : List Char) :
    lines (xs ++ '\n' :: ys) = lines xs ++ lines ys :=
  List.splitOnP_append_cons xs ys rfl

end Tileboard.Text
