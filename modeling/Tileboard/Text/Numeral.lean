/-!
Natural numbers in decimal digits.

`write` gives the numeral without leading zeros; `read?` gives the value of any non-empty string of
digits, with leading zeros or without.
-/

namespace Tileboard.Text.Numeral

/-- The digit of a number below ten. -/
def digit (n : Nat) : Char :=
  Char.ofNat (48 + n)

/-- The value of a digit. -/
def value (c : Char) : Nat :=
  c.toNat - 48

/-- The digits of a number, most significant first. -/
def write (n : Nat) : List Char :=
  if n < 10 then [digit n] else write (n / 10) ++ [digit (n % 10)]

/-- The number that the digits continue, when `start` is the value of those before them. -/
def valueFrom (start : Nat) (cs : List Char) : Nat :=
  cs.foldl (fun total c => 10 * total + value c) start

/-- The value of a non-empty string of digits. -/
def read? (cs : List Char) : Option Nat :=
  if !cs.isEmpty && cs.all Char.isDigit then some (valueFrom 0 cs) else none

/-- The value of a non-empty string of digits, which one plus sign may precede. -/
def readSigned? : List Char → Option Nat
  | '+' :: cs => read? cs
  | cs => read? cs

/-! ## Digits and numerals -/

theorem digit_isDigit {n : Nat} (h : n < 10) : (digit n).isDigit = true := by
  have : ∀ k : Fin 10, (digit k).isDigit = true := by decide
  exact this ⟨n, h⟩

theorem value_digit {n : Nat} (h : n < 10) : value (digit n) = n := by
  have : ∀ k : Fin 10, value (digit k) = k := by decide
  exact this ⟨n, h⟩

theorem write_of_lt {n : Nat} (h : n < 10) : write n = [digit n] := by
  unfold write
  simp [h]

theorem write_of_le {n : Nat} (h : 10 ≤ n) : write n = write (n / 10) ++ [digit (n % 10)] := by
  have hn : ¬ n < 10 := by omega
  rw [write, if_neg hn]

end Tileboard.Text.Numeral
