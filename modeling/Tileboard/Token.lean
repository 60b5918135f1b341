/-!
The tiles: eighteen kinds of command, and the rotation that a tile of some kinds carries.

A kind owns the words of its command, the label of its tile and the name that board files use for
it.  A kind whose command has a number takes a rotation from 0 to 7, which reads as the number 1 to
8.  Three kinds mark the thread that the tiles after them belong to.
-/

namespace Tileboard

/-- The three threads that run side by side. -/
inductive Lane
  | first
  | second
  | third
  deriving DecidableEq, Repr

/-- The commands that a tile can stand for. -/
inductive Kind
  | add
  | subtract
  | delay
  | otherwise
  | endFunction
  | endIf
  | endLoop
  | function
  | functionCall
  | ifBelow
  | loop
  | play
  | playX
  | random
  | thread1
  | thread2
  | thread3
  | assign
  deriving DecidableEq, Repr

/-- One word of a command: a fixed word, or the number that the rotation stands for. -/
inductive Word
  | literal (text : String)
  | number
  deriving DecidableEq, Repr

namespace Kind

/-- All kinds, in the order of their names in board files. -/
def all : List Kind :=
  [add, subtract, delay, otherwise, endFunction, endIf, endLoop, function, functionCall, ifBelow,
    loop, play, playX, random, thread1, thread2, thread3, assign]

/-- The words of the command. -/
def phrase : Kind → List Word
  | add => [.literal "x", .literal "=", .literal "x", .literal "+", .literal "1"]
  | subtract => [.literal "x", .literal "=", .literal "x", .literal "-", .literal "1"]
  | delay => [.literal "delay", .number]
  | otherwise => [.literal "else"]
  | endFunction => [.literal "end", .literal "function"]
  | endIf => [.literal "end", .literal "if"]
  | endLoop => [.literal "end", .literal "loop"]
  | function => [.literal "function"]
  | functionCall => [.literal "call", .literal "function"]
  | ifBelow => [.literal "if", .literal "x", .literal "<", .number]
  | loop => [.literal "loop", .number, .literal "times"]
  | play => [.literal "play", .number]
  | playX => [.literal "play", .literal "x"]
  | random => [.literal "x", .literal "=", .literal "random"]
  | thread1 => [.literal "thread", .literal "1"]
  | thread2 => [.literal "thread", .literal "2"]
  | thread3 => [.literal "thread", .literal "3"]
  | assign => [.literal "x", .literal "=", .number]

/-- The kind's name on a tile. -/
def displayName : Kind → String
  | add => "X + 1"
  | subtract => "X - 1"
  | delay => "Delay"
  | otherwise => "Else"
  | endFunction => "End Function"
  | endIf => "End If"
  | endLoop => "End Loop"
  | function => "Function"
  | functionCall => "Call Function"
  | ifBelow => "If X <"
  | loop => "Loop"
  | play => "Play"
  | playX => "Play X"
  | random => "X = Random"
  | thread1 => "Thread 1"
  | thread2 => "Thread 2"
  | thread3 => "Thread 3"
  | assign => "X ="

/-- The kind's name in board files. -/
def key : Kind → String
  | add => "add"
  | subtract => "subtract"
  | delay => "delay"
  | otherwise => "else"
  | endFunction => "endfunction"
  | endIf => "endif"
  | endLoop => "endloop"
  | function => "function"
  | functionCall => "functioncall"
  | ifBelow => "if"
  | loop => "loop"
  | play => "play"
  | playX => "playx"
  | random => "random"
  | thread1 => "thread1"
  | thread2 => "thread2"
  | thread3 => "thread3"
  | assign => "variable"

/-- The kind's name in messages: its key with a capital at the start of each word. -/
def title : Kind → String
  | add => "Add"
  | subtract => "Subtract"
  | delay => "Delay"
  | otherwise => "Else"
  | endFunction => "EndFunction"
  | endIf => "EndIf"
  | endLoop => "EndLoop"
  | function => "Function"
  | functionCall => "FunctionCall"
  | ifBelow => "If"
  | loop => "Loop"
  | play => "Play"
  | playX => "PlayX"
  | random => "Random"
  | thread1 => "Thread1"
  | thread2 => "Thread2"
  | thread3 => "Thread3"
  | assign => "Variable"

/-- The kind that board files call by the name. -/
def ofKey? (name : String) : Option Kind :=
  all.find? (·.key == name)

/-- Whether the command has a number, which the rotation stands for. -/
def takesNumber (kind : Kind) : Bool :=
  kind.phrase.contains .number

/-- The largest rotation of the kind. -/
def maxParam (kind : Kind) : Nat :=
  if kind.takesNumber then 7 else 0

/-- The thread that the kind switches to, if it is a marker. -/
def lane? : Kind → Option Lane
  | thread1 => some .first
  | thread2 => some .second
  | thread3 => some .third
  | _ => none

/-- Whether the kind marks the start of a thread's tiles. -/
def isMarker (kind : Kind) : Bool :=
  kind.lane?.isSome

theorem mem_all (kind : Kind) : kind ∈ all := by
  cases kind <;> decide

theorem ofKey?_key (kind : Kind) : ofKey? kind.key = some kind := by
  cases kind <;> rfl

end Kind

/-- A tile: its command and its rotation. -/
structure Token where
  kind : Kind
  param : Nat
  deriving DecidableEq, Repr

namespace Token

/-- The numbers that the rotations 0 to 7 stand for. -/
def numbers : List String :=
  ["1", "2", "3", "4", "5", "6", "7", "8"]

/-- Whether the kind has the tile's rotation. -/
def valid (token : Token) : Bool :=
  token.param ≤ token.kind.maxParam

/-- The tile of a kind and a rotation, if the kind has it. -/
def ofParam? (kind : Kind) (param : Nat) : Option Token :=
  if param ≤ kind.maxParam then some ⟨kind, param⟩ else none

/-- The tile of a kind in its first rotation. -/
def plain (kind : Kind) : Token :=
  ⟨kind, 0⟩

/-- The number that the rotation stands for, if the command has one. -/
def number? (token : Token) : Option String :=
  if token.kind.takesNumber then numbers[token.param]? else none

/-- The words of the tile's command. -/
def words (token : Token) : List String :=
  token.kind.phrase.map fun
    | .literal text => text
    | .number => token.number?.getD "1"

/-- The line of text that stands for the tile. -/
def text (token : Token) : String :=
  " ".intercalate token.words

/-- What the tile shows: the name of its kind and its number. -/
def label (token : Token) : String :=
  match token.number? with
  | some number => token.kind.displayName ++ " " ++ number
  | none => token.kind.displayName

theorem plain_valid (kind : Kind) : (plain kind).valid = true := by
  simp [plain, valid]

end Token

end Tileboard
