import Tileboard.Proofs.CursorWalk
import Mathlib.Algebra.Order.Floor.Div

/-!
The rows that a layout takes, as a sum over blocks.

With thread rows every marker opens a block, and dense packing opens none.  A block starts at the
beginning of a row and fills it and the next ones without a gap.

1. **Blocks** — `Blocks.cut` cuts a sequence in front of every entry that opens a block.  What comes
   before the first of them is a block too, perhaps an empty one.

2. **The cursor in a block** — behind so many lines of a block the cursor stands where `behind` says
   (`settle_behind_of_stays`), and a line that opens a block moves it to the row below all that the
   block before has touched (`settle_behind_of_opens`), also where that block is empty or its last
   row is full.

3. **Rows (`rows?_ofLines`)** — so the layout takes the sum of the rows of the blocks, and fails
   exactly if the board has fewer.
-/

namespace Tileboard

/-! ## Blocks -/

namespace Blocks

variable {α : Type}

/-- What comes before the first entry that opens a block. -/
def lead (opens : α → Bool) (xs : List α) : List α :=
  xs.takeWhile fun x => !opens x

/-- The blocks that an entry opens, each up to the next such entry. -/
def headed (opens : α → Bool) : List α → List (List α)
  | [] => []
  | x :: rest =>
    if opens x then (x :: lead opens rest) :: headed opens rest else headed opens rest

/-- All blocks of a sequence. -/
def cut (opens : α → Bool) (xs : List α) : List (List α) :=
  lead opens xs :: headed opens xs

variable {opens : α → Bool} {x : α} {rest : List α}

theorem lead_cons_of_opens (h : opens x = true) : lead opens (x :: rest) = [] := by
  simp [lead, h]

theorem lead_cons_of_not (h : opens x = false) :
    lead opens (x :: rest) = x :: lead opens rest := by
  simp [lead, h]

theorem headed_cons_of_opens (h : opens x = true) :
    headed opens (x :: rest) = (x :: lead opens rest) :: headed opens rest := by
  rw [headed, if_pos h]

theorem headed_cons_of_not (h : opens x = false) :
    headed opens (x :: rest) = headed opens rest := by
  rw [headed, h]
  rfl

/-- Without an entry that opens one, all is one block. -/
theorem cut_of_forall_not {xs : List α} (h : ∀ x ∈ xs, opens x = false) : cut opens xs = [xs] := by
  induction xs with
  | nil => rfl
  | cons x rest ih =>
    have hx : opens x = false := h x (List.mem_cons_self ..)
    have hrest := ih fun y hy => h y (List.mem_cons_of_mem x hy)
    rw [cut, List.cons.injEq] at hrest
    rw [cut, lead_cons_of_not hx, headed_cons_of_not hx, hrest.1, hrest.2]

/-- What begins with a block of its own leaves the blocks in front of it as they are. -/
theorem lead_append {xs ys : List α} (h : lead opens ys = []) :
    lead opens (xs ++ ys) = lead opens xs := by
  induction xs with
  | nil => exact h
  | cons x rest ih =>
    rw [List.cons_append]
    cases hx : opens x with
    | false => rw [lead_cons_of_not hx, lead_cons_of_not hx, ih]
    | true => rw [lead_cons_of_opens hx, lead_cons_of_opens hx]

theorem headed_append {xs ys : List α} (h : lead opens ys = []) :
    headed opens (xs ++ ys) = headed opens xs ++ headed opens ys := by
  induction xs with
  | nil => rfl
  | cons x rest ih =>
    rw [List.cons_append]
    cases hx : opens x with
    | false => rw [headed_cons_of_not hx, headed_cons_of_not hx, ih]
    | true =>
      rw [headed_cons_of_opens hx, headed_cons_of_opens hx, lead_append h, ih, List.cons_append]

end Blocks

namespace Size

/-- The rows that so many cells take, from the beginning of a row on. -/
def rowsFor (size : Size) (n : Nat) : Nat :=
  n ⌈/⌉ size.cols

/-- The rows that blocks take, each from the beginning of a row on. -/
def rowsOf {α : Type} (size : Size) (blocks : List (List α)) : Nat :=
  (blocks.map fun block => size.rowsFor block.length).sum

theorem rowsFor_zero (size : Size) : size.rowsFor 0 = 0 :=
  zero_ceilDiv size.cols

theorem rowsOf_cons {α : Type} (size : Size) (block : List α) (rest : List (List α)) :
    size.rowsOf (block :: rest) = size.rowsFor block.length + size.rowsOf rest :=
  rfl

theorem rowsFor_succ (size : Size) (n : Nat) : size.rowsFor (n + 1) = n / size.cols + 1 := by
  have hpos := size.cols_pos
  have hsum : n + 1 + size.cols - 1 = n + size.cols := by omega
  rw [rowsFor, Nat.ceilDiv_eq_add_pred_div, hsum, Nat.add_div_right n hpos]

/-- Only the lengths of the blocks count. -/
theorem rowsOf_eq_of_lengths {α β : Type} (size : Size) {blocks : List (List α)}
    {blocks' : List (List β)} (h : blocks.map List.length = blocks'.map List.length) :
    size.rowsOf blocks = size.rowsOf blocks' := by
  have hmap := congrArg (List.map size.rowsFor) h
  rw [List.map_map, List.map_map] at hmap
  exact congrArg List.sum hmap

/-- The order of the blocks does not count. -/
theorem rowsOf_eq_of_perm {α : Type} (size : Size) {blocks blocks' : List (List α)}
    (h : blocks.Perm blocks') : size.rowsOf blocks = size.rowsOf blocks' :=
  (h.map _).sum_nat

/-- One more cell begins a row exactly if the rows before it are full. -/
theorem div_lt_rowsFor {size : Size} {n m : Nat} (h : n < m) : n / size.cols < size.rowsFor m := by
  obtain ⟨k, rfl⟩ := Nat.exists_eq_add_of_lt h
  rw [rowsFor_succ]
  exact Nat.lt_succ_of_le (Nat.div_le_div_right (Nat.le_add_right n k))

end Size

/-- A number of rows, if the board has so many. -/
def Size.fit? (size : Size) (total : Nat) : Option Nat :=
  if total ≤ size.rows then some total else none

/-- Whether the line opens a block of its own. -/
def Line.opens (packing : Packing) (line : Line) : Bool :=
  packing == .threadRows && line.isMarker

/-! ## The cursor in a block -/

namespace Cursor

variable {size : Size} {packing : Packing} {line : Line}

/-- The cursor behind `n` lines of a block whose first row is `row`. -/
def behind (size : Size) (row : Nat) : Nat → Cursor
  | 0 => ⟨row, 0⟩
  | n + 1 => ⟨row + n / size.cols, n % size.cols + 1⟩

theorem col_behind_le (size : Size) (row n : Nat) : (behind size row n).col ≤ size.cols := by
  cases n with
  | zero => exact Nat.zero_le _
  | succ n => exact Nat.mod_lt n size.cols_pos

theorem index_behind (size : Size) (row n : Nat) :
    (behind size row n).index size = row * size.cols + n := by
  cases n with
  | zero => rfl
  | succ n =>
    show (row + n / size.cols) * size.cols + (n % size.cols + 1) = row * size.cols + (n + 1)
    have hdiv : n / size.cols * size.cols + n % size.cols = n := Nat.div_add_mod' n size.cols
    rw [Nat.add_mul]
    omega

/-- Behind the first line of a block, whose cell is the first of a row. -/
theorem step_behind_zero (size : Size) (row : Nat) :
    (behind size row 0).step = behind size row 1 := by
  simp [behind, step]

theorem rowsUsed_behind (size : Size) (row n : Nat) :
    (behind size row n).rowsUsed = row + size.rowsFor n := by
  cases n with
  | zero => rw [Size.rowsFor_zero]; rfl
  | succ n => rw [Size.rowsFor_succ]; rfl

/-- **Inside a block**, the line behind `n` others gets the cell that `n` determines. -/
theorem settle_behind_of_stays {row n : Nat} (h : line.opens packing = false) :
    (behind size row n).settle size packing line = ⟨row + n / size.cols, n % size.cols⟩ := by
  have hstays : (behind size row n).breaksRow packing line = false := by
    rw [breaksRow]
    show (line.opens packing && _) = false
    rw [h, Bool.false_and]
  -- both cells have the same number, and neither is behind the last column
  have hindex : ((behind size row n).settle size packing line).index size =
      size.index (row + n / size.cols) (n % size.cols) := by
    have hdiv : n / size.cols * size.cols + n % size.cols = n := Nat.div_add_mod' n size.cols
    rw [index_settle_of_stays hstays (col_behind_le size row n), index_behind, Size.index,
      Nat.add_mul]
    omega
  obtain ⟨hrow, hcol⟩ := Size.index_inj (settle_col_lt size packing line _)
    (Nat.mod_lt n size.cols_pos) hindex
  exact Cursor.mk.injEq .. ▸ ⟨hrow, hcol⟩

/-- **A line that opens a block** gets the first cell below the rows of the block before. -/
theorem settle_behind_of_opens {row n : Nat} (h : line.opens packing = true) :
    (behind size row n).settle size packing line = behind size (row + size.rowsFor n) 0 := by
  cases n with
  | zero =>
    -- an empty block has touched no row
    have hpos := size.cols_pos
    rw [settle_of_stays (breaksRow_of_col_eq_zero rfl), Size.rowsFor_zero]
    exact if_neg (by show ¬ size.cols ≤ 0; omega)
  | succ n =>
    have hbreaks : (behind size row (n + 1)).breaksRow packing line = true := by
      rw [breaksRow]
      show (line.opens packing && true) = true
      rw [h, Bool.true_and]
    rw [settle_of_breaks hbreaks, Size.rowsFor_succ]
    rfl

end Cursor

namespace Layout

open Cursor Blocks

variable {size : Size} {packing : Packing}

/-! ## Rows -/

theorem rows?_ofLinesFrom_cons {c cell : Cursor} {line : Line} {rest : List Line}
    (hcell : c.settle size packing line = cell) :
    (ofLinesFrom size packing c (line :: rest)).rows? =
      if cell.row < size.rows then (ofLinesFrom size packing cell.step rest).rows? else none := by
  subst hcell
  rw [ofLinesFrom]
  split <;> rfl

/-- The rows of a walk that starts behind `n` lines of a block: those above the block, those of the
block when it is complete, and those of the blocks after it.  Induction on the lines: a line of the
block moves from `n` to `n + 1`, and one that opens a block moves the block's rows above it. -/
theorem rows?_ofLinesFrom (size : Size) (packing : Packing) : ∀ (lines : List Line) (row n : Nat),
    row + size.rowsFor n ≤ size.rows →
      (ofLinesFrom size packing (behind size row n) lines).rows? =
        size.fit? (row + size.rowsFor (n + (lead (Line.opens packing) lines).length) +
          size.rowsOf (headed (Line.opens packing) lines)) := by
  intro lines
  induction lines with
  | nil =>
    intro row n h
    show some (behind size row n).rowsUsed = _
    rw [rowsUsed_behind]
    exact (if_pos h).symm
  | cons line rest ih =>
    intro row n h
    cases hopens : line.opens packing with
    | false =>
      have hlength : n + ((lead (Line.opens packing) rest).length + 1) =
          n + 1 + (lead (Line.opens packing) rest).length := by omega
      rw [lead_cons_of_not hopens, headed_cons_of_not hopens, List.length_cons, hlength,
        rows?_ofLinesFrom_cons (settle_behind_of_stays hopens)]
      split
      · next hr => exact ih row (n + 1) (by rw [Size.rowsFor_succ]; exact hr)
      · next hr =>
        have hrow : size.rows ≤ row + n / size.cols := Nat.not_lt.mp hr
        have hlt : n / size.cols < size.rowsFor (n + 1 + (lead (Line.opens packing) rest).length) :=
          Size.div_lt_rowsFor (by omega)
        exact (if_neg (by omega)).symm
    | true =>
      have hlength : (line :: lead (Line.opens packing) rest).length =
          1 + (lead (Line.opens packing) rest).length := by rw [List.length_cons, Nat.add_comm]
      rw [lead_cons_of_opens hopens, headed_cons_of_opens hopens, Size.rowsOf_cons, hlength,
        List.length_nil, Nat.add_zero, ← Nat.add_assoc,
        rows?_ofLinesFrom_cons (settle_behind_of_opens hopens), step_behind_zero]
      split
      · next hr =>
        refine ih (row + size.rowsFor n) 1 ?_
        rw [Size.rowsFor_succ, Nat.zero_div]
        exact hr
      · next hr =>
        have hrow : size.rows ≤ row + size.rowsFor n := Nat.not_lt.mp hr
        have hlt : 0 < size.rowsFor (1 + (lead (Line.opens packing) rest).length) :=
          Nat.lt_of_le_of_lt (Nat.zero_le _) (Size.div_lt_rowsFor (Nat.lt_add_right _ Nat.one_pos))
        exact (if_neg (by omega)).symm

/-- **A layout takes the rows of its blocks**, if the board has so many. -/
theorem rows?_ofLines (size : Size) (packing : Packing) (lines : List Line) :
    (ofLines size packing lines).rows? =
      size.fit? (size.rowsOf (cut (Line.opens packing) lines)) := by
  have hzero := size.rowsFor_zero
  have h := rows?_ofLinesFrom size packing lines 0 0 (by omega)
  rw [Nat.zero_add, Nat.zero_add, ← Size.rowsOf_cons] at h
  exact h

/-- Densely packed lines are one block. -/
theorem rows?_ofLines_dense (size : Size) (lines : List Line) :
    (ofLines size .dense lines).rows? = size.fit? (size.rowsFor lines.length) := by
  have hcut : cut (Line.opens .dense) lines = [lines] := cut_of_forall_not fun _ _ => rfl
  rw [rows?_ofLines, hcut]
  rfl

end Layout

end Tileboard
