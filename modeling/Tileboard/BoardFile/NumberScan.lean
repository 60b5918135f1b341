import Tileboard.BoardFile.Fault
import Tileboard.Decimal.Double

/-!
Numbers in a board file, character by character.

A scan knows how far the number has got and what it amounts to so far.  Digits count while the
significand fits in 64 bits; later ones only move the decimal point.  A number without fraction and
exponent is an integer if 64 bits hold it.
-/

namespace Tileboard.BoardFile

/-- The part of a number that the last character belongs to. -/
inductive NumberPart
  | sign
  | zero
  | whole
  | point
  | fraction
  | exponentMark
  | exponentSign
  | exponent
  deriving DecidableEq, Repr

/-- The beginning of a number. -/
structure NumberScan where
  part : NumberPart
  negative : Bool
  significand : Nat
  /-- The power of ten that the significand is to be multiplied by, without the exponent. -/
  scale : Int
  /-- Whether a digit of the present part did not fit into the significand any more. -/
  full : Bool
  /-- Whether a digit of the whole part did not fit. -/
  long : Bool
  exponentNegative : Bool
  exponent : Nat
  deriving DecidableEq, Repr

/-- A complete number. -/
inductive Number
  | integer (value : Int)
  | real (negative : Bool) (size : Float)

namespace Number

/-- The number as a value that is not what is wanted. -/
def found : Number → Found
  | integer value => .integer value
  | real negative size => .real ((if negative then "-" else "") ++ Decimal.Double.text size)

end Number

namespace NumberScan

/-- The limit of the significand: 64 bits. -/
def significandLimit : Nat :=
  Nat.pow 2 64

/-- The limit of the exponent: 31 bits. -/
def exponentLimit : Nat :=
  Nat.pow 2 31

/-- A number that has only its sign so far. -/
def signed (negative : Bool) : NumberScan :=
  ⟨.sign, negative, 0, 0, false, false, false, 0⟩

/-- A digit of the whole part behind another. -/
def addWhole (n : NumberScan) (c : Char) : NumberScan :=
  let next := 10 * n.significand + Text.Numeral.value c
  if n.full || significandLimit ≤ next then
    { n with part := .whole, full := true, long := true, scale := n.scale + 1 }
  else { n with part := .whole, significand := next }

/-- A digit of the fraction. -/
def addFraction (n : NumberScan) (c : Char) : NumberScan :=
  let next := 10 * n.significand + Text.Numeral.value c
  if n.full || significandLimit ≤ next then { n with part := .fraction, full := true }
  else { n with part := .fraction, significand := next, scale := n.scale - 1 }

/-- A digit of the exponent, which stays at its limit when it gets there. -/
def addExponent (n : NumberScan) (c : Char) : NumberScan :=
  { n with
    part := .exponent
    exponent := min exponentLimit (10 * n.exponent + Text.Numeral.value c) }

/-- What a character does to a number. -/
inductive Step
  | more (n : NumberScan)
  | stop
  | fault
  deriving DecidableEq, Repr

/-- What a character that is no digit does behind digits. -/
def leaveDigits (n : NumberScan) (allowPoint : Bool) (c : Char) : Step :=
  if c = '.' ∧ allowPoint then .more { n with part := .point, full := false }
  else if c = 'e' ∨ c = 'E' then .more { n with part := .exponentMark }
  else .stop

/-- What the next character does to the number. -/
def step (n : NumberScan) (c : Char) : Step :=
  match n.part with
  | .sign =>
    if c = '0' then .more { n with part := .zero }
    else if c.isDigit then .more (n.addWhole c)
    else .fault
  | .zero => if c.isDigit then .fault else n.leaveDigits true c
  | .whole => if c.isDigit then .more (n.addWhole c) else n.leaveDigits true c
  | .point => if c.isDigit then .more (n.addFraction c) else .fault
  | .fraction => if c.isDigit then .more (n.addFraction c) else n.leaveDigits false c
  | .exponentMark =>
    if c = '+' ∨ c = '-' then
      .more { n with part := .exponentSign, exponentNegative := c == '-' }
    else if c.isDigit then .more (n.addExponent c)
    else .fault
  | .exponentSign => if c.isDigit then .more (n.addExponent c) else .fault
  | .exponent => if c.isDigit then .more (n.addExponent c) else .stop

/-- Whether the number may end here. -/
def complete (n : NumberScan) : Bool :=
  match n.part with
  | .zero | .whole | .fraction | .exponent => true
  | .sign | .point | .exponentMark | .exponentSign => false

/-- The number with a sign and a power of ten. -/
def real (n : NumberScan) : Except Fault Number :=
  if exponentLimit ≤ n.exponent then
    if n.significand ≠ 0 ∧ !n.exponentNegative then .error .numberTooLarge
    else .ok (.real n.negative 0)
  else
    let exponent : Int := if n.exponentNegative then -n.exponent else n.exponent
    match Decimal.Double.ofDecimal? n.significand (n.scale + exponent) with
    | some size => .ok (.real n.negative size)
    | none => .error .numberTooLarge

/-- The value of a complete number. -/
def value (n : NumberScan) : Except Fault Number :=
  match n.part with
  | .zero | .whole =>
    if n.long then n.real
    else if !n.negative then .ok (.integer n.significand)
    else if 0 < n.significand ∧ n.significand ≤ Nat.pow 2 63 then .ok (.integer (-n.significand))
    else n.real
  | _ => n.real

end NumberScan

end Tileboard.BoardFile
