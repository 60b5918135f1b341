import Tileboard.Text.Blank
import Tileboard.Text.Numeral
import Tileboard.Token

/-!
The grammar of one script line.

A line is read by its words, and the words after a complete command do not count:

    thread 1|2|3          loop NUM              end loop|if|function
    play x                play NUM              delay NUM
    x = random            x = x + 1             x = x - 1
    x = NUM               if x < NUM            else
    function              call function

`NUM` is a numeral from 1 to 8, which a plus sign and zeros may precede.
-/

namespace Tileboard

/-- Why a line is no command. -/
inductive LineError
  | unknownCommand (line : String)
  | threadNumber
  | numberRange (kind : Kind)
  | endTarget
  | assignmentSign
  | arithmetic
  | conditionForm
  | callTarget
  deriving DecidableEq, Repr

/-- What the number of a command is called. -/
def Kind.numberName : Kind → String
  | .ifBelow => "Condition number"
  | .assign => "Variable value"
  | kind => kind.displayName ++ " number"

/-- What is wrong with the line, in words. -/
def LineError.message : LineError → String
  | unknownCommand line => "Unknown command: " ++ line
  | threadNumber => "Thread number must be 1, 2, or 3"
  | numberRange kind => kind.numberName ++ " must be between 1 and 8"
  | endTarget => "End must be followed by loop, if, or function"
  | assignmentSign => "Expected '=' after x"
  | arithmetic => "Only x = x + 1 and x = x - 1 are supported"
  | conditionForm => "Condition must have the form: if x < <n>"
  | callTarget => "Call must be followed by function"

namespace Grammar

/-- The rotation that a numeral from 1 to 8 stands for. -/
def rotation? (word : String) : Option Nat :=
  match Text.Numeral.readSigned? word.toList with
  | some n => if 1 ≤ n ∧ n ≤ 8 then some (n - 1) else none
  | none => none

/-- The tile of a kind whose number is the next word. -/
def readNumbered (kind : Kind) : List String → Except LineError Token
  | [] => .error (.numberRange kind)
  | word :: _ =>
    match rotation? word with
    | some param => .ok ⟨kind, param⟩
    | none => .error (.numberRange kind)

/-- What follows `thread`. -/
def readThread : List String → Except LineError Token
  | "1" :: _ => .ok (.plain .thread1)
  | "2" :: _ => .ok (.plain .thread2)
  | "3" :: _ => .ok (.plain .thread3)
  | _ => .error .threadNumber

/-- What follows `end`. -/
def readEnd : List String → Except LineError Token
  | "loop" :: _ => .ok (.plain .endLoop)
  | "if" :: _ => .ok (.plain .endIf)
  | "function" :: _ => .ok (.plain .endFunction)
  | _ => .error .endTarget

/-- What follows `play`. -/
def readPlay : List String → Except LineError Token
  | "x" :: _ => .ok (.plain .playX)
  | rest => readNumbered .play rest

/-- What follows `x`. -/
def readAssignment : List String → Except LineError Token
  | "=" :: "random" :: _ => .ok (.plain .random)
  | "=" :: "x" :: "+" :: "1" :: _ => .ok (.plain .add)
  | "=" :: "x" :: "-" :: "1" :: _ => .ok (.plain .subtract)
  | "=" :: "x" :: _ => .error .arithmetic
  | "=" :: rest => readNumbered .assign rest
  | _ => .error .assignmentSign

/-- What follows `if`. -/
def readCondition : List String → Except LineError Token
  | "x" :: "<" :: rest => readNumbered .ifBelow rest
  | _ => .error .conditionForm

/-- What follows `call`. -/
def readCall : List String → Except LineError Token
  | "function" :: _ => .ok (.plain .functionCall)
  | _ => .error .callTarget

/-- The tile that the words of a line stand for; `line` is the line that an error shows. -/
def readWords (line : String) : List String → Except LineError Token
  | "thread" :: rest => readThread rest
  | "loop" :: rest => readNumbered .loop rest
  | "end" :: rest => readEnd rest
  | "play" :: rest => readPlay rest
  | "delay" :: rest => readNumbered .delay rest
  | "x" :: rest => readAssignment rest
  | "if" :: rest => readCondition rest
  | "else" :: _ => .ok (.plain .otherwise)
  | "function" :: _ => .ok (.plain .function)
  | "call" :: rest => readCall rest
  | _ => .error (.unknownCommand line)

/-- The words of a line. -/
def wordsOf (line : String) : List String :=
  (Text.words line.toList).map String.ofList

/-- The tile that a line stands for. -/
def readLine (line : String) : Except LineError Token :=
  readWords line (wordsOf line)

/-- Reading the words of a tile's command gives the tile, whatever follows them. -/
theorem readWords_words {token : Token} (h : token.valid = true) (line : String)
    (rest : List String) : readWords line (token.words ++ rest) = .ok token := by
  obtain ⟨kind, param⟩ := token
  have hp : param ≤ kind.maxParam := by simpa [Token.valid] using h
  have h7 : kind.maxParam ≤ 7 := by cases kind <;> decide
  have : param = 0 ∨ param = 1 ∨ param = 2 ∨ param = 3 ∨ param = 4 ∨ param = 5 ∨ param = 6
      ∨ param = 7 := by omega
  rcases this with rfl | rfl | rfl | rfl | rfl | rfl | rfl | rfl <;> cases kind <;>
    first
    | rfl
    | exact absurd hp (by decide)

end Grammar

end Tileboard
