/-!
Sets of characters given as ranges of code points.

A property of the character standard is a table of pairs `(first, last)`, both ends included, in
increasing order.  `Ranges.contains` is the membership test, and `Ranges.contains_iff` says what it
tests.
-/

namespace Tileboard.Text

/-- A set of characters: pairs of the first and the last code point of each range. -/
abbrev Ranges := List (Nat × Nat)

/-- Whether some range of the table holds the character. -/
def Ranges.contains (ranges : Ranges) (c : Char) : Bool :=
  ranges.any fun range => range.1 ≤ c.toNat && c.toNat ≤ range.2

theorem Ranges.contains_iff {ranges : Ranges} {c : Char} :
    ranges.contains c = true ↔ ∃ range ∈ ranges, range.1 ≤ c.toNat ∧ c.toNat ≤ range.2 := by
  simp [Ranges.contains]

end Tileboard.Text
