import Tileboard.Board

/-!
Reading order: the cells of a board counted row by row.

A cell at `row` and `col` has the number `row * cols + col`.  Three things are proved here and used
wherever cells are compared.

1. **Numbers and cells** — on the board the number determines the row and the column (`index_div`,
   `index_mod`, `index_inj`), and it is below the number of cells (`index_lt_area`).

2. **Numbers below the area are on the board** — `row_lt_of_index_lt` is the converse for a cell
   whose column is in range; it is what tells a walk that it has not left the board yet.

3. **Orderly lists** — `Orderly size start placed` says that tiles stand on the board, from the
   cell number `start` on, each strictly after the one before it.  `Orderly.cons` is the one step
   by which a walk builds such a list.
-/

namespace Tileboard

namespace Size

/-- The number of a cell in reading order, counted from 0. -/
def index (size : Size) (row col : Nat) : Nat :=
  row * size.cols + col

theorem index_div {size : Size} {row col : Nat} (hc : col < size.cols) :
    size.index row col / size.cols = row := by
  rw [index, Nat.mul_comm, Nat.mul_add_div size.cols_pos, Nat.div_eq_of_lt hc, Nat.add_zero]

theorem index_mod {size : Size} {row col : Nat} (hc : col < size.cols) :
    size.index row col % size.cols = col := by
  rw [index, Nat.mul_comm, Nat.mul_add_mod, Nat.mod_eq_of_lt hc]

/-- Two cells with the same number are the same cell. -/
theorem index_inj {size : Size} {row col row' col' : Nat} (hc : col < size.cols)
    (hc' : col' < size.cols) (h : size.index row col = size.index row' col') :
    row = row' ∧ col = col' := by
  have hr : size.index row col / size.cols = row := index_div hc
  have hm : size.index row col % size.cols = col := index_mod hc
  rw [h, index_div hc'] at hr
  rw [h, index_mod hc'] at hm
  exact ⟨hr.symm, hm.symm⟩

/-- A cell with a smaller number stands in a row above, or further left in the same row. -/
theorem before_of_index_lt {size : Size} {row col row' col' : Nat} (hc : col < size.cols)
    (hc' : col' < size.cols) (h : size.index row col < size.index row' col') :
    row < row' ∨ row = row' ∧ col < col' := by
  have hrow : row ≤ row' := calc
    row = size.index row col / size.cols := (index_div hc).symm
    _ ≤ size.index row' col' / size.cols := Nat.div_le_div_right (Nat.le_of_lt h)
    _ = row' := index_div hc'
  rcases Nat.lt_or_eq_of_le hrow with hlt | rfl
  · exact .inl hlt
  · exact .inr ⟨rfl, Nat.lt_of_add_lt_add_left h⟩

/-- The last cell of a row comes right before the first cell of the next row. -/
theorem index_succ_row (size : Size) (row : Nat) :
    size.index (row + 1) 0 = size.index row size.cols := by
  rw [index, index, Nat.succ_mul, Nat.add_zero]

theorem index_lt_area {size : Size} {row col : Nat} (hr : row < size.rows)
    (hc : col < size.cols) : size.index row col < size.area := by
  -- the row ends where the next one starts, and that is still within the area
  have h : size.index (row + 1) 0 ≤ size.area := by
    rw [index, area, Nat.add_zero]
    exact Nat.mul_le_mul_right size.cols hr
  rw [index_succ_row] at h
  have hlt : size.index row col < size.index row size.cols := Nat.add_lt_add_left hc _
  omega

/-- A cell whose number is below the number of cells is not below the last row. -/
theorem row_lt_of_index_lt {size : Size} {row col : Nat} (h : size.index row col < size.area) :
    row < size.rows := by
  rcases Nat.lt_or_ge row size.rows with hlt | hge
  · exact hlt
  · exfalso
    -- all rows of the board lie in front of this one
    have hmul : size.area ≤ row * size.cols := Nat.mul_le_mul_right size.cols hge
    rw [index] at h
    omega

end Size

namespace Placement

/-- Where the tile stands in reading order on a board of the size. -/
def index (size : Size) (p : Placement) : Nat :=
  size.index p.row p.col

/-- The tile stands on the board. -/
def On (size : Size) (p : Placement) : Prop :=
  p.row < size.rows ∧ p.col < size.cols

end Placement

/-- The tiles stand on the board, from the cell number `start` on, each strictly after the one
before it. -/
structure Orderly (size : Size) (start : Nat) (placed : List Placement) : Prop where
  on : ∀ p ∈ placed, p.On size
  from_start : ∀ p ∈ placed, start ≤ p.index size
  increasing : placed.Pairwise fun p q => p.index size < q.index size

namespace Orderly

theorem nil (size : Size) (start : Nat) : Orderly size start [] :=
  ⟨by simp, by simp, List.Pairwise.nil⟩

/-- **One step of a walk.**  A tile on the board, followed by an orderly list that starts behind
it, is an orderly list from any number up to the tile's own. -/
theorem cons {size : Size} {start : Nat} {p : Placement} {placed : List Placement}
    (hp : p.On size) (hs : start ≤ p.index size)
    (h : Orderly size (p.index size + 1) placed) : Orderly size start (p :: placed) := by
  refine ⟨?_, ?_, ?_⟩
  · intro q hq
    rcases List.mem_cons.mp hq with rfl | hq
    · exact hp
    · exact h.on q hq
  · intro q hq
    rcases List.mem_cons.mp hq with rfl | hq
    · exact hs
    · have := h.from_start q hq
      omega
  · exact List.pairwise_cons.mpr ⟨fun q hq => h.from_start q hq, h.increasing⟩

/-- The tiles behind the first are orderly from the cell behind it. -/
theorem tail {size : Size} {start : Nat} {p : Placement} {placed : List Placement}
    (h : Orderly size start (p :: placed)) : Orderly size (p.index size + 1) placed := by
  obtain ⟨hbehind, hincreasing⟩ := List.pairwise_cons.mp h.increasing
  exact ⟨fun q hq => h.on q (List.mem_cons_of_mem p hq), hbehind, hincreasing⟩

/-- What is orderly from some number on is so from every number before it. -/
theorem mono {size : Size} {start start' : Nat} {placed : List Placement} (hle : start' ≤ start)
    (h : Orderly size start placed) : Orderly size start' placed :=
  ⟨h.on, fun p hp => Nat.le_trans hle (h.from_start p hp), h.increasing⟩

end Orderly

end Tileboard
