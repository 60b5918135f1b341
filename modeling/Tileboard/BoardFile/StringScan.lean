import Tileboard.BoardFile.Fault

/-!
Strings in a board file, character by character.

An escape gives one character; `\u` with four hexadecimal digits gives a UTF-16 unit, and two
surrogate units in a row give one character.  A string that nobody reads is scanned loosely: its
escapes must be well formed, but units need not form pairs.
-/

namespace Tileboard.BoardFile

/-- Where a string has got to. -/
inductive StringPart
  | plain
  /-- Behind a backslash. -/
  | escape
  /-- Behind `\u` and so many bytes with the given value, if they are digits; `lead` is the leading
  surrogate that the escape is to complete. -/
  | unit (bytes : Nat) (value : Option Nat) (lead : Option Nat)
  /-- Behind a leading surrogate. -/
  | lead (unit : Nat)
  /-- Behind a leading surrogate and a backslash. -/
  | leadEscape (unit : Nat)
  deriving DecidableEq, Repr

/-- The beginning of a string: its last characters first. -/
structure StringScan where
  strict : Bool
  reversed : List Char
  part : StringPart
  deriving DecidableEq, Repr

namespace StringScan

/-- What a character does to a string. -/
inductive Step
  | more (s : StringScan)
  | close (text : String)
  deriving DecidableEq, Repr

/-- A string behind its opening quotation mark. -/
def start (strict : Bool) : StringScan :=
  ⟨strict, [], .plain⟩

/-- The string with one more character. -/
def push (s : StringScan) (c : Char) : StringScan :=
  { s with reversed := c :: s.reversed, part := .plain }

/-- The string so far. -/
def text (s : StringScan) : String :=
  String.ofList s.reversed.reverse

/-- The value of a hexadecimal digit. -/
def hexValue? (c : Char) : Option Nat :=
  if c.isDigit then some (c.toNat - 48)
  else if 'a' ≤ c ∧ c ≤ 'f' then some (c.toNat - 87)
  else if 'A' ≤ c ∧ c ≤ 'F' then some (c.toNat - 55)
  else none

/-- Whether the UTF-16 unit is the first of a pair. -/
def isLeading (unit : Nat) : Bool :=
  0xD800 ≤ unit && unit ≤ 0xDBFF

/-- Whether the UTF-16 unit is the second of a pair. -/
def isTrailing (unit : Nat) : Bool :=
  0xDC00 ≤ unit && unit ≤ 0xDFFF

/-- The character that two UTF-16 units stand for. -/
def pair (leading trailing : Nat) : Char :=
  Char.ofNat (0x10000 + (leading - 0xD800) * 0x400 + (trailing - 0xDC00))

/-- The string behind a complete unit. -/
def addUnit (s : StringScan) (lead : Option Nat) (unit : Nat) : Except Fault Step :=
  if !s.strict then .ok (.more { s with part := .plain })
  else
    match lead with
    | some leading =>
      if isTrailing unit then .ok (.more (s.push (pair leading unit))) else .error .loneSurrogate
    | none =>
      if isTrailing unit then .error .loneSurrogate
      else if isLeading unit then .ok (.more { s with part := .lead unit })
      else .ok (.more (s.push (Char.ofNat unit)))

/-- The string behind one more digit of a unit, which is to have four bytes. -/
def addHex (s : StringScan) (bytes : Nat) (value lead : Option Nat) (c : Char) :
    Except Fault Step :=
  let bytes := bytes + c.utf8Size
  let value := value.bind fun v => (hexValue? c).map (16 * v + ·)
  if bytes < 4 then .ok (.more { s with part := .unit bytes value lead })
  else
    match value with
    | some unit => s.addUnit lead unit
    | none => .error .malformedEscape

/-- The character that a letter behind a backslash stands for. -/
def escaped? (c : Char) : Option Char :=
  if c = '"' ∨ c = '\\' ∨ c = '/' then some c
  else if c = 'b' then some '\x08'
  else if c = 'f' then some '\x0c'
  else if c = 'n' then some '\n'
  else if c = 'r' then some '\r'
  else if c = 't' then some '\t'
  else none

/-- What the next character does to the string. -/
def step (s : StringScan) (c : Char) : Except Fault Step :=
  match s.part with
  | .plain =>
    if c = '"' then .ok (.close s.text)
    else if c = '\\' then .ok (.more { s with part := .escape })
    else if c.toNat < 0x20 then .error .rawControl
    else .ok (.more (s.push c))
  | .escape =>
    if c = 'u' then .ok (.more { s with part := .unit 0 (some 0) none })
    else
      match escaped? c with
      | some e => .ok (.more (s.push e))
      | none => .error .malformedEscape
  | .unit bytes value lead => s.addHex bytes value lead c
  | .lead unit =>
    if c = '\\' then .ok (.more { s with part := .leadEscape unit }) else .error .cutSurrogate
  | .leadEscape unit =>
    if c = 'u' then .ok (.more { s with part := .unit 0 (some 0) (some unit) })
    else .error .cutSurrogate

end StringScan

end Tileboard.BoardFile
