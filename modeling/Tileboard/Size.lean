/-!
Board sizes.

A size has at least one row and one column and at most 4096 cells, and a value of `Size` holds the
proofs, so no later code checks a size again.  `Size.make` is the only check; `make_eq_ok_iff`,
`make_eq_empty_iff` and `make_eq_tooLarge_iff` say when it gives which answer.
-/

namespace Tileboard

/-- The number of rows and columns of a board. -/
structure Size where
  rows : Nat
  cols : Nat
  rows_pos : 0 < rows := by decide
  cols_pos : 0 < cols := by decide
  area_le : rows * cols ≤ 4096 := by decide
  deriving DecidableEq, Repr

/-- Why there is no board of some dimensions. -/
inductive SizeError
  | empty
  | tooLarge (rows cols : Nat)
  deriving DecidableEq, Repr

/-- What is wrong with the dimensions, in words. -/
def SizeError.message : SizeError → String
  | empty => "grid must have at least one row and column"
  | tooLarge rows cols =>
    "grid of " ++ toString rows ++ "x" ++ toString cols ++ " cells exceeds the 4096 cell limit"

namespace Size

/-- The size of the editor's board. -/
def standard : Size where
  rows := 7
  cols := 5

/-- The size of the board with one row less. -/
def compact : Size where
  rows := 6
  cols := 5

/-- The number of cells. -/
def area (size : Size) : Nat :=
  size.rows * size.cols

/-- The size with the given dimensions, if there is one. -/
def make (rows cols : Nat) : Except SizeError Size :=
  if hr : 0 < rows then
    if hc : 0 < cols then
      if ha : rows * cols ≤ 4096 then .ok ⟨rows, cols, hr, hc, ha⟩
      else .error (.tooLarge rows cols)
    else .error .empty
  else .error .empty

theorem area_pos (size : Size) : 0 < size.area :=
  Nat.mul_pos size.rows_pos size.cols_pos

/-! ## When there is a size -/

theorem make_rows_cols (size : Size) : make size.rows size.cols = .ok size := by
  simp [make, size.rows_pos, size.cols_pos, size.area_le]

theorem make_eq_ok_iff {rows cols : Nat} {size : Size} :
    make rows cols = .ok size ↔ size.rows = rows ∧ size.cols = cols := by
  constructor
  · intro h
    unfold make at h
    split at h <;> try contradiction
    split at h <;> try contradiction
    split at h <;> try contradiction
    injection h with h
    subst h
    exact ⟨rfl, rfl⟩
  · rintro ⟨rfl, rfl⟩
    exact make_rows_cols size

theorem make_eq_empty_iff {rows cols : Nat} :
    make rows cols = .error .empty ↔ rows = 0 ∨ cols = 0 := by
  unfold make
  split
  · split
    · split <;> simp <;> omega
    · simp; omega
  · simp; omega

theorem make_eq_tooLarge_iff {rows cols r c : Nat} :
    make rows cols = .error (.tooLarge r c) ↔ (r = rows ∧ c = cols) ∧ 4096 < rows * cols := by
  unfold make
  split
  · split
    · split
      · simp; omega
      · simp
        exact ⟨fun ⟨a, b⟩ => ⟨⟨a.symm, b.symm⟩, by omega⟩, fun h => ⟨h.1.1.symm, h.1.2.symm⟩⟩
    · next h =>
      have : cols = 0 := by omega
      subst this
      simp
  · next h =>
    have : rows = 0 := by omega
    subst this
    simp

end Size

end Tileboard
