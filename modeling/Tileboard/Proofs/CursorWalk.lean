import Tileboard.Layout
import Tileboard.Proofs.ReadingOrder

/-!
The walk of the cursor: which cells a layout gives, and when every line has one.

The cursor sees only the number of its cell.  A line is given the cell in front of the cursor
(`index_settle_of_stays`), unless it is a marker that starts a row: then it is given a later one
(`index_le_index_settle`), and the cells in between stay empty.  After that the cursor is right
behind the cell.  Everything else follows from these three facts by one induction on the lines:

1. **Order** — the tiles of a layout are orderly (`orderly_ofLines`): on the board, and each
   strictly after the one before it, whatever the markers do.

2. **Nothing lost** — a layout that reaches the end of the lines has the tile of each, in their order
   (`map_token_of_isSome`).

3. **Capacity** — a layout that reaches the end has a cell for each line (`length_le_of_isSome`),
   and dense packing reaches the end as soon as there are as many cells as lines
   (`isSome_rows?_of_length_le`).  So thread rows never fit more than dense packing.
-/

namespace Tileboard

namespace Cursor

/-- The number of the cell in front of the cursor.  Behind the last column this is the first cell
of the next row. -/
def index (size : Size) (c : Cursor) : Nat :=
  size.index c.row c.col

variable {size : Size} {packing : Packing} {line : Line} {c : Cursor}

theorem index_start (size : Size) : start.index size = 0 := by
  simp [index, start, Size.index]

theorem index_step (size : Size) (c : Cursor) : c.step.index size = c.index size + 1 :=
  rfl

/-- The next row is not in front of the cursor, as long as the cursor has not left its row. -/
theorem index_le_index_nextRow (hc : c.col ≤ size.cols) : c.index size ≤ c.nextRow.index size := by
  show size.index c.row c.col ≤ size.index (c.row + 1) 0
  rw [Size.index_succ_row]
  exact Nat.add_le_add_left hc _

theorem index_nextRow_of_col_eq (hc : c.col = size.cols) :
    c.nextRow.index size = c.index size := by
  show size.index (c.row + 1) 0 = size.index c.row c.col
  rw [Size.index_succ_row, hc]

/-! ## Settling on a cell -/

theorem settle_of_breaks (h : c.breaksRow packing line = true) :
    c.settle size packing line = c.nextRow := by
  have hpos := size.cols_pos
  simp only [settle, h, if_true, nextRow]
  rw [if_neg (by omega)]

theorem settle_of_stays (h : c.breaksRow packing line = false) :
    c.settle size packing line = if size.cols ≤ c.col then c.nextRow else c := by
  simp [settle, h]

/-- Only thread rows break a row. -/
theorem breaksRow_dense (line : Line) (c : Cursor) : c.breaksRow .dense line = false :=
  rfl

/-- No line breaks a row at its start. -/
theorem breaksRow_of_col_eq_zero (h : c.col = 0) : c.breaksRow packing line = false := by
  simp [breaksRow, h]

/-- A line is never given a cell behind the last column. -/
theorem settle_col_lt (size : Size) (packing : Packing) (line : Line) (c : Cursor) :
    (c.settle size packing line).col < size.cols := by
  have hpos := size.cols_pos
  rcases Bool.eq_false_or_eq_true (c.breaksRow packing line) with h | h
  · rw [settle_of_breaks h]
    exact hpos
  · rw [settle_of_stays h]
    split
    · exact hpos
    · omega

/-- A line that breaks no row is given the cell in front of the cursor. -/
theorem index_settle_of_stays (h : c.breaksRow packing line = false) (hc : c.col ≤ size.cols) :
    (c.settle size packing line).index size = c.index size := by
  rw [settle_of_stays h]
  split
  · exact index_nextRow_of_col_eq (by omega)
  · rfl

/-- No line is given a cell behind the cursor. -/
theorem index_le_index_settle (hc : c.col ≤ size.cols) :
    c.index size ≤ (c.settle size packing line).index size := by
  rcases Bool.eq_false_or_eq_true (c.breaksRow packing line) with h | h
  · -- a marker that starts a row skips what is left of the one before
    rw [settle_of_breaks h]
    exact index_le_index_nextRow hc
  · exact Nat.le_of_eq (index_settle_of_stays h hc).symm

/-- Stepping behind a cell keeps the cursor in its row. -/
theorem step_settle_col_le (size : Size) (packing : Packing) (line : Line) (c : Cursor) :
    (c.settle size packing line).step.col ≤ size.cols :=
  settle_col_lt size packing line c

end Cursor

namespace Layout

open Cursor

variable {size : Size} {packing : Packing} {lines : List Line}

/-! ## One line at a time -/

/-- A line whose cell is on the board is placed there, and the walk goes on behind it. -/
theorem ofLinesFrom_cons_of_lt {line : Line} {rest : List Line} {c : Cursor}
    (h : (c.settle size packing line).row < size.rows) :
    ofLinesFrom size packing c (line :: rest) =
      let cell := c.settle size packing line
      let after := ofLinesFrom size packing cell.step rest
      ⟨⟨cell.row, cell.col, line.token⟩ :: after.placed, after.rows?⟩ := by
  simp only [ofLinesFrom, if_pos h]

/-- A line whose cell is below the board ends the walk. -/
theorem ofLinesFrom_cons_of_ge {line : Line} {rest : List Line} {c : Cursor}
    (h : size.rows ≤ (c.settle size packing line).row) :
    ofLinesFrom size packing c (line :: rest) = ⟨[], none⟩ := by
  simp only [ofLinesFrom, if_neg (Nat.not_lt.mpr h)]

/-! ## Order -/

/-- The tiles of a walk are orderly from the cursor's cell on.  Induction on the lines; the step is
`Orderly.cons` at the line's cell, behind which the rest of the walk starts. -/
theorem orderly_ofLinesFrom (size : Size) (packing : Packing) : ∀ (lines : List Line) (c : Cursor),
    c.col ≤ size.cols → Orderly size (c.index size) (ofLinesFrom size packing c lines).placed := by
  intro lines
  induction lines with
  | nil => intro c _; exact Orderly.nil size _
  | cons line rest ih =>
    intro c hc
    rcases Nat.lt_or_ge (c.settle size packing line).row size.rows with hr | hr
    · rw [ofLinesFrom_cons_of_lt hr]
      exact Orderly.cons ⟨hr, settle_col_lt size packing line c⟩ (index_le_index_settle hc)
        (ih _ (step_settle_col_le size packing line c))
    · rw [ofLinesFrom_cons_of_ge hr]
      exact Orderly.nil size _

/-- **The tiles of a layout are orderly**: they stand on the board, no two in one cell, in the
order of the lines. -/
theorem orderly_ofLines (size : Size) (packing : Packing) (lines : List Line) :
    Orderly size 0 (ofLines size packing lines).placed := by
  have h := orderly_ofLinesFrom size packing lines Cursor.start (Nat.zero_le _)
  rwa [index_start] at h

/-! ## Nothing lost -/

theorem map_token_of_isSome_from (size : Size) (packing : Packing) :
    ∀ (lines : List Line) (c : Cursor), (ofLinesFrom size packing c lines).rows?.isSome = true →
      (ofLinesFrom size packing c lines).placed.map (·.token) = lines.map (·.token) := by
  intro lines
  induction lines with
  | nil => intro c _; rfl
  | cons line rest ih =>
    intro c h
    rcases Nat.lt_or_ge (c.settle size packing line).row size.rows with hr | hr
    · rw [ofLinesFrom_cons_of_lt hr] at h ⊢
      show line.token :: _ = line.token :: _
      rw [ih _ h]
    · rw [ofLinesFrom_cons_of_ge hr] at h
      exact absurd h (by decide)

/-- A layout that reaches the end of the lines has placed every one of them. -/
theorem map_token_of_isSome (h : (ofLines size packing lines).rows?.isSome = true) :
    (ofLines size packing lines).placed.map (·.token) = lines.map (·.token) :=
  map_token_of_isSome_from size packing lines Cursor.start h

/-! ## Capacity -/

/-- A layout that reaches the end has a cell for each line: orderly tiles have different numbers,
all below the number of cells. -/
theorem length_le_of_isSome_from (size : Size) (packing : Packing) :
    ∀ (lines : List Line) (c : Cursor), c.col ≤ size.cols → c.index size ≤ size.area →
      (ofLinesFrom size packing c lines).rows?.isSome = true →
      c.index size + lines.length ≤ size.area := by
  intro lines
  induction lines with
  | nil => intro c _ ha _; exact ha
  | cons line rest ih =>
    intro c hc _ h
    rcases Nat.lt_or_ge (c.settle size packing line).row size.rows with hr | hr
    · -- the line takes one cell, not before the cursor, and the rest starts right behind it
      rw [ofLinesFrom_cons_of_lt hr] at h
      have hle : c.index size ≤ (c.settle size packing line).index size := index_le_index_settle hc
      have hlt : (c.settle size packing line).index size < size.area :=
        Size.index_lt_area hr (settle_col_lt size packing line c)
      have hrest := ih _ (step_settle_col_le size packing line c) hlt h
      rw [index_step] at hrest
      rw [List.length_cons]
      omega
    · rw [ofLinesFrom_cons_of_ge hr] at h
      exact absurd h (by decide)

/-- **No packing gives cells to more lines than there are cells.** -/
theorem length_le_of_isSome (h : (ofLines size packing lines).rows?.isSome = true) :
    lines.length ≤ size.area := by
  have hle := length_le_of_isSome_from size packing lines Cursor.start (Nat.zero_le _)
    (by rw [index_start]; exact Nat.zero_le _) h
  rwa [index_start, Nat.zero_add] at hle

theorem isSome_rows?_of_length_le_from (size : Size) : ∀ (lines : List Line) (c : Cursor),
    c.col ≤ size.cols → c.index size + lines.length ≤ size.area →
      (ofLinesFrom size .dense c lines).rows?.isSome = true := by
  intro lines
  induction lines with
  | nil => intro c _ _; rfl
  | cons line rest ih =>
    intro c hc hlen
    rw [List.length_cons] at hlen
    -- the line takes the cell in front of the cursor, and one is left for it
    have hi : (c.settle size .dense line).index size = c.index size :=
      index_settle_of_stays (breaksRow_dense line c) hc
    have hlt : (c.settle size .dense line).index size < size.area := by omega
    have hr : (c.settle size .dense line).row < size.rows := Size.row_lt_of_index_lt hlt
    rw [ofLinesFrom_cons_of_lt hr]
    refine ih _ (step_settle_col_le size .dense line c) ?_
    rw [index_step, hi]
    omega

/-- **Dense packing leaves no cell out**: it reaches the end as soon as there is a cell for each
line. -/
theorem isSome_rows?_of_length_le (h : lines.length ≤ size.area) :
    (ofLines size .dense lines).rows?.isSome = true := by
  refine isSome_rows?_of_length_le_from size lines Cursor.start (Nat.zero_le _) ?_
  rwa [index_start, Nat.zero_add]

/-! ## The choice of the packing -/

/-- **Thread rows are used where there is a marker and they reach the end.**  The count that comes
before the trial refuses nothing else. -/
theorem usesThreadRows_eq_true_iff : usesThreadRows size lines = true ↔
    lines.any Line.isMarker = true ∧ (ofLines size .threadRows lines).rows?.isSome = true := by
  rw [usesThreadRows, wantsThreadRows, Bool.and_eq_true, Bool.and_eq_true, decide_eq_true_eq]
  exact ⟨fun h => ⟨h.1.1, h.2⟩, fun h => ⟨⟨h.1, length_le_of_isSome h.2⟩, h.2⟩⟩

theorem choosePacking_of_uses (h : usesThreadRows size lines = true) :
    choosePacking size lines = .threadRows :=
  if_pos h

theorem choosePacking_of_not_uses (h : usesThreadRows size lines = false) :
    choosePacking size lines = .dense := by
  rw [choosePacking, h]
  rfl

/-- The layout of lines in the packing that is chosen for them. -/
def chosen (size : Size) (lines : List Line) : Layout :=
  ofLines size (choosePacking size lines) lines

/-- The chosen packing reaches the end exactly when there is a cell for each line. -/
theorem isSome_rows?_chosen (size : Size) (lines : List Line) :
    (chosen size lines).rows?.isSome = true ↔ lines.length ≤ size.area := by
  refine ⟨length_le_of_isSome, fun h => ?_⟩
  rw [chosen]
  cases huses : usesThreadRows size lines with
  | true =>
    -- thread rows are chosen only if trying them has reached the end
    rw [choosePacking_of_uses huses]
    exact (usesThreadRows_eq_true_iff.mp huses).2
  | false =>
    rw [choosePacking_of_not_uses huses]
    exact isSome_rows?_of_length_le h

end Layout

end Tileboard
