import Tileboard.Text.CaseContext
import Tileboard.Text.LowercaseTable

/-!
Lowercase text.

Every capital becomes its lowercase letter.  Two letters need more than the table of runs: `İ`
becomes two characters, and a capital sigma becomes `ς` at the end of a word and `σ` elsewhere, so
the mapping looks at the text on both sides of it.
-/

namespace Tileboard.Text

/-- The lowercase letter of a capital, and any other character itself. -/
def lowerChar (c : Char) : Char :=
  match caseRuns.find? (·.contains c.toNat) with
  | some run => Char.ofNat (run.lower c.toNat)
  | none => c

/-- A capital sigma in lowercase, by what stands before it (nearest first) and after it. -/
def lowerSigma (before after : List Char) : Char :=
  if startsCased before && !startsCased after then 'ς' else 'σ'

/-- One character in lowercase, by what stands before it (nearest first) and after it. -/
def lowerAt (before : List Char) (c : Char) (after : List Char) : List Char :=
  if c = 'Σ' then [lowerSigma before after]
  else if c = 'İ' then ['i', '\u0307']
  else [lowerChar c]

/-- The rest of a text in lowercase, where `before` is what precedes it, nearest first. -/
def lowerFrom (before : List Char) : List Char → List Char
  | [] => []
  | c :: after => lowerAt before c after ++ lowerFrom (c :: before) after

/-- A text in lowercase. -/
def lowercase (cs : List Char) : List Char :=
  lowerFrom [] cs

end Tileboard.Text
