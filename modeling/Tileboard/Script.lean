import Tileboard.Grammar
import Tileboard.Text.Lowercase

/-!
Scripts: one command a line.

A script is read in lowercase, its lines are trimmed, and blank lines do not count.  The others are
numbered from 1, and the first that is no command decides the error.
-/

namespace Tileboard

/-- A command of a script: its number among the lines that are not blank, its tile, and whether it
marks the start of a thread's tiles. -/
structure Line where
  number : Nat
  token : Token
  isMarker : Bool
  deriving DecidableEq, Repr

/-- The line with the given number and tile, a marker if its tile is one. -/
def Line.ofToken (number : Nat) (token : Token) : Line :=
  ⟨number, token, token.kind.isMarker⟩

/-- Why a script gives no board. -/
inductive ScriptError
  | line (number : Nat) (reason : LineError)
  | overflow (rows : Nat)
  deriving DecidableEq, Repr

/-- What is wrong with the script, in words. -/
def ScriptError.message : ScriptError → String
  | line number reason => "Line " ++ toString number ++ ": " ++ reason.message
  | overflow rows => "Code exceeds grid size (" ++ toString rows ++ " rows maximum)"

namespace Script

/-- Whether the script holds nothing but blanks. -/
def isBlank (script : String) : Bool :=
  script.toList.all Text.isBlank

/-- The trimmed lines of a text that are not blank. -/
def fullLines (cs : List Char) : List (List Char) :=
  ((Text.lines cs).map Text.trim).filter fun line => !line.isEmpty

/-- The commands of a script, as its grammar reads them. -/
def commands (script : String) : List String :=
  (fullLines (Text.lowercase script.toList)).map String.ofList

/-- The lines of some commands, the first of which has the given number. -/
def readFrom (number : Nat) : List String → Except ScriptError (List Line)
  | [] => .ok []
  | command :: rest =>
    match Grammar.readLine command with
    | .error reason => .error (.line number reason)
    | .ok token =>
      match readFrom (number + 1) rest with
      | .error error => .error error
      | .ok lines => .ok (.ofToken number token :: lines)

/-- The lines of a script. -/
def read (script : String) : Except ScriptError (List Line) :=
  readFrom 1 (commands script)

/-- The lines of a script that has one command for each tile, from the given number on. -/
def linesFrom (number : Nat) : List Token → List Line
  | [] => []
  | token :: rest => .ofToken number token :: linesFrom (number + 1) rest

/-- The lines of a script that has one command for each tile. -/
def ofTokens (tokens : List Token) : List Line :=
  linesFrom 1 tokens

/-! ## Reading piece by piece -/

theorem readFrom_append_of_ok {xs ys : List String} {number : Nat} {lines : List Line}
    (h : readFrom number xs = .ok lines) :
    readFrom number (xs ++ ys) = (readFrom (number + xs.length) ys).map (lines ++ ·) := by
  induction xs generalizing number lines with
  | nil =>
    cases h
    cases hy : readFrom number ys <;> simp [hy, Except.map]
  | cons x xs ih =>
    simp only [readFrom] at h
    split at h
    · contradiction
    · split at h
      · contradiction
      · next token htoken _ rest hrest =>
        cases h
        have hn : number + 1 + xs.length = number + (xs.length + 1) := by omega
        simp only [List.cons_append, readFrom, htoken, ih hrest, List.length_cons, hn]
        cases readFrom (number + (xs.length + 1)) ys <;> rfl

theorem readFrom_append_of_error {xs ys : List String} {number : Nat} {error : ScriptError}
    (h : readFrom number xs = .error error) : readFrom number (xs ++ ys) = .error error := by
  induction xs generalizing number with
  | nil => cases h
  | cons x xs ih =>
    simp only [readFrom] at h
    split at h
    · next e he => cases h; simp [readFrom, he]
    · next token htoken =>
      split at h
      · next e he => cases h; simp [readFrom, htoken, ih he]
      · contradiction

end Script

end Tileboard
