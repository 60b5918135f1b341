import Tileboard.Proofs.StrictViews

/-!
Sizes and boards in 64 bits: no number of cells, number of a cell or end of a row is too large for a word.

What runs here counts with natural numbers.  A machine counts with words of 64 bits, where a sum or a
product may not fit, and the dimensions of a board are the only place where that is tested.  In this
module the counting is done over again in words, one operation after the other, and it stops at the
first operation whose result is no word, whose divisor is 0, or which cuts out cells that are not there.

1. **Counters** — the operations, and what each gives where it does not stop.

2. **Sizes** — the product of the dimensions decides, as a natural number (`make_cases`), so a test of the
   product in words accepts what a test of the product itself accepts (`make_eq`).  A product that is no
   word is above the limit anyway.

3. **Boards** — the number of cells (`exists_area`), the number of a cell (`index?_eq`), a row (`row?_eq`)
   and the list of the tiles (`exists_puts`) come out as they do with natural numbers.  All numbers are at
   most that of the cells, which is at most 4096.
-/

namespace Tileboard

/-! ## Counters -/

/-- What a machine counts with: a word of 64 bits. -/
abbrev Counter := UInt64

/-- Why a computation with counters stops. -/
inductive Trap
  /-- The result is no word. -/
  | overflow
  /-- The divisor is 0. -/
  | zeroDivisor
  /-- There are not so many cells. -/
  | outOfCells
  deriving DecidableEq, Repr

namespace Trap

variable {α β : Type}

/-- What does not stop goes on with its result. -/
@[simp] theorem ok_bind (a : α) (next : α → Except Trap β) : (Except.ok a >>= next) = next a :=
  rfl

@[simp] theorem pure_eq_ok (a : α) : (pure a : Except Trap α) = .ok a :=
  rfl

end Trap

namespace Counter

/-- The sum, if it is a word. -/
def checkedAdd (a b : Counter) : Except Trap Counter :=
  if a.toNat + b.toNat < 2 ^ 64 then .ok (a + b) else .error .overflow

/-- The product, if it is a word. -/
def checkedMul (a b : Counter) : Except Trap Counter :=
  if a.toNat * b.toNat < 2 ^ 64 then .ok (a * b) else .error .overflow

/-- The quotient, if the divisor is not 0. -/
def checkedDiv (a b : Counter) : Except Trap Counter :=
  if b = 0 then .error .zeroDivisor else .ok (a / b)

/-- The remainder, if the divisor is not 0. -/
def checkedMod (a b : Counter) : Except Trap Counter :=
  if b = 0 then .error .zeroDivisor else .ok (a % b)

variable {a b : Counter}

theorem exists_checkedAdd (h : a.toNat + b.toNat < 2 ^ 64) :
    ∃ c, a.checkedAdd b = .ok c ∧ c.toNat = a.toNat + b.toNat :=
  ⟨a + b, if_pos h, by rw [UInt64.toNat_add, Nat.mod_eq_of_lt h]⟩

theorem exists_checkedAdd_one (h : a.toNat + 1 < 2 ^ 64) :
    ∃ c, a.checkedAdd 1 = .ok c ∧ c.toNat = a.toNat + 1 :=
  exists_checkedAdd h

theorem exists_checkedMul (h : a.toNat * b.toNat < 2 ^ 64) :
    ∃ c, a.checkedMul b = .ok c ∧ c.toNat = a.toNat * b.toNat :=
  ⟨a * b, if_pos h, by rw [UInt64.toNat_mul, Nat.mod_eq_of_lt h]⟩

theorem checkedMul_of_le (h : 2 ^ 64 ≤ a.toNat * b.toNat) :
    a.checkedMul b = .error .overflow :=
  if_neg (Nat.not_lt.mpr h)

theorem ne_zero_of_pos (h : 0 < b.toNat) : b ≠ 0 := by
  rintro rfl
  exact Nat.lt_irrefl 0 h

theorem exists_checkedDiv (h : 0 < b.toNat) :
    ∃ c, a.checkedDiv b = .ok c ∧ c.toNat = a.toNat / b.toNat :=
  ⟨a / b, if_neg (ne_zero_of_pos h), UInt64.toNat_div a b⟩

theorem exists_checkedMod (h : 0 < b.toNat) :
    ∃ c, a.checkedMod b = .ok c ∧ c.toNat = a.toNat % b.toNat :=
  ⟨a % b, if_neg (ne_zero_of_pos h), UInt64.toNat_mod a b⟩

end Counter

/-! ## Sizes -/

/-- The dimensions of a board, in counters. -/
structure Dimensions where
  rows : Counter
  cols : Counter
  deriving DecidableEq, Repr

/-- The dimensions of boards of the size. -/
def Size.dimensions (size : Size) : Dimensions :=
  ⟨.ofNat size.rows, .ofNat size.cols⟩

@[simp] theorem Size.toNat_dimensions_rows (size : Size) : size.dimensions.rows.toNat = size.rows :=
  UInt64.toNat_ofNat_of_lt' (Nat.lt_of_le_of_lt size.rows_le (by decide))

@[simp] theorem Size.toNat_dimensions_cols (size : Size) : size.dimensions.cols.toNat = size.cols :=
  UInt64.toNat_ofNat_of_lt' (Nat.lt_of_le_of_lt size.cols_le (by decide))

theorem Size.area_lt_word (size : Size) : size.area < 2 ^ 64 :=
  Nat.lt_of_le_of_lt size.area_le (by decide)

namespace Dimensions

/-- The given dimensions, if they are those of a size.  The product is taken only to be tested. -/
def make (rows cols : Counter) : Except SizeError Dimensions :=
  if rows = 0 ∨ cols = 0 then .error .empty
  else
    match rows.checkedMul cols with
    | .ok area =>
      if area ≤ 4096 then .ok ⟨rows, cols⟩ else .error (.tooLarge rows.toNat cols.toNat)
    | .error _ => .error (.tooLarge rows.toNat cols.toNat)

variable {rows cols : Counter}

theorem mul_eq_zero_iff : rows.toNat * cols.toNat = 0 ↔ rows = 0 ∨ cols = 0 := by
  rw [Nat.mul_eq_zero, ← UInt64.toNat_inj, ← UInt64.toNat_inj]
  rfl

theorem make_of_le (hpos : 1 ≤ rows.toNat * cols.toNat) (hle : rows.toNat * cols.toNat ≤ 4096) :
    make rows cols = .ok ⟨rows, cols⟩ := by
  have hne : ¬ (rows = 0 ∨ cols = 0) := mt mul_eq_zero_iff.mpr (by omega)
  obtain ⟨area, hmul, hvalue⟩ := Counter.exists_checkedMul (a := rows) (b := cols) (by omega)
  have harea : area ≤ 4096 := by
    rw [UInt64.le_iff_toNat_le, hvalue]
    exact hle
  simp only [make, if_neg hne, hmul, if_pos harea]

/-- A product that is too large is refused, whether it is a word or not. -/
theorem make_of_lt (h : 4096 < rows.toNat * cols.toNat) :
    make rows cols = .error (.tooLarge rows.toNat cols.toNat) := by
  have hne : ¬ (rows = 0 ∨ cols = 0) := mt mul_eq_zero_iff.mpr (by omega)
  rcases Nat.lt_or_ge (rows.toNat * cols.toNat) (2 ^ 64) with hword | hword
  · obtain ⟨area, hmul, hvalue⟩ := Counter.exists_checkedMul hword
    have harea : ¬ area ≤ 4096 := by
      rw [UInt64.le_iff_toNat_le, hvalue]
      exact Nat.not_le.mpr h
    simp only [make, if_neg hne, hmul, if_neg harea]
  · simp only [make, if_neg hne, Counter.checkedMul_of_le hword]

/-- **The product decides**, as a natural number. -/
theorem make_cases (rows cols : Counter) :
    (make rows cols = .error .empty ∧ rows.toNat * cols.toNat = 0) ∨
    (make rows cols = .ok ⟨rows, cols⟩ ∧
      1 ≤ rows.toNat * cols.toNat ∧ rows.toNat * cols.toNat ≤ 4096) ∨
    (make rows cols = .error (.tooLarge rows.toNat cols.toNat) ∧
      4096 < rows.toNat * cols.toNat) := by
  rcases Nat.eq_zero_or_pos (rows.toNat * cols.toNat) with hzero | hpos
  · exact .inl ⟨if_pos (mul_eq_zero_iff.mp hzero), hzero⟩
  · rcases Nat.lt_or_ge 4096 (rows.toNat * cols.toNat) with hlarge | hfits
    · exact .inr (.inr ⟨make_of_lt hlarge, hlarge⟩)
    · exact .inr (.inl ⟨make_of_le hpos hfits, hpos, hfits⟩)

theorem make_eq_empty_iff : make rows cols = .error .empty ↔ rows = 0 ∨ cols = 0 := by
  rw [← mul_eq_zero_iff]
  rcases make_cases rows cols with ⟨h, hzero⟩ | ⟨h, hpos, -⟩ | ⟨h, hlarge⟩
  · exact ⟨fun _ => hzero, fun _ => h⟩
  · simp only [h, reduceCtorEq, false_iff]
    omega
  · simp only [h, Except.error.injEq, reduceCtorEq, false_iff]
    omega

theorem make_eq_ok_iff : make rows cols = .ok ⟨rows, cols⟩ ↔
    1 ≤ rows.toNat * cols.toNat ∧ rows.toNat * cols.toNat ≤ 4096 := by
  rcases make_cases rows cols with ⟨h, hzero⟩ | ⟨h, hpos, hfits⟩ | ⟨h, hlarge⟩
  · simp only [h, reduceCtorEq, false_iff]
    omega
  · exact ⟨fun _ => ⟨hpos, hfits⟩, fun _ => h⟩
  · simp only [h, reduceCtorEq, false_iff]
    omega

theorem make_eq_tooLarge_iff : make rows cols = .error (.tooLarge rows.toNat cols.toNat) ↔
    4096 < rows.toNat * cols.toNat := by
  rcases make_cases rows cols with ⟨h, hzero⟩ | ⟨h, -, hfits⟩ | ⟨h, hlarge⟩
  · simp only [h, Except.error.injEq, reduceCtorEq, false_iff]
    omega
  · simp only [h, reduceCtorEq, false_iff]
    omega
  · exact ⟨fun _ => hlarge, fun _ => h⟩

/-- **Testing the product in words** gives what testing the product gives. -/
theorem make_eq (rows cols : Counter) :
    make rows cols = (Size.make rows.toNat cols.toNat).map Size.dimensions := by
  rcases make_cases rows cols with ⟨h, hzero⟩ | ⟨h, hpos, hfits⟩ | ⟨h, hlarge⟩
  · rw [h, Size.make_eq_empty_iff.mpr (Nat.mul_eq_zero.mp hzero)]
    rfl
  · have hr : 0 < rows.toNat := Nat.pos_of_mul_pos_right hpos
    have hc : 0 < cols.toNat := Nat.pos_of_mul_pos_left hpos
    have hsize : Size.make rows.toNat cols.toNat = .ok ⟨rows.toNat, cols.toNat, hr, hc, hfits⟩ :=
      Size.make_rows_cols ⟨rows.toNat, cols.toNat, hr, hc, hfits⟩
    rw [h, hsize]
    simp only [Except.map, Size.dimensions, UInt64.ofNat_toNat]
  · rw [h, Size.make_eq_tooLarge_iff.mpr ⟨⟨rfl, rfl⟩, hlarge⟩]
    rfl

/-- Dimensions that are accepted are those of a size. -/
theorem exists_size_of_make {d : Dimensions} (h : make rows cols = .ok d) :
    ∃ size, Size.make rows.toNat cols.toNat = .ok size ∧ size.dimensions = d := by
  rw [make_eq] at h
  cases hsize : Size.make rows.toNat cols.toNat with
  | error error => rw [hsize] at h; nomatch h
  | ok size =>
    rw [hsize] at h
    exact ⟨size, rfl, Except.ok.inj h⟩

end Dimensions

/-! ## Boards -/

/-- A place on a board, in counters; as for a cursor, `col` counts the cells of the row behind it. -/
structure Position where
  row : Counter
  col : Counter
  deriving DecidableEq, Repr

/-- A tile and where it is put, in counters. -/
structure Put where
  position : Position
  token : Token
  deriving DecidableEq, Repr

/-- The tile and where it is put, in natural numbers. -/
def Put.placement (put : Put) : Placement :=
  ⟨put.position.row.toNat, put.position.col.toNat, put.token⟩

namespace Dimensions

/-- The number of cells. -/
def area (d : Dimensions) : Except Trap Counter :=
  d.rows.checkedMul d.cols

/-- The number of a cell, if the board has it. -/
def index? (d : Dimensions) (row col : Counter) : Except Trap (Option Counter) :=
  if row < d.rows ∧ col < d.cols then do
    let start ← row.checkedMul d.cols
    let i ← start.checkedAdd col
    return some i
  else return none

/-- The cells of one row, if the board has it. -/
def row? (d : Dimensions) (cells : Array Cell) (row : Counter) :
    Except Trap (Option (List Cell)) := do
  match ← d.index? row 0 with
  | none => return none
  | some start =>
    let stop ← start.checkedAdd d.cols
    if stop.toNat ≤ cells.size then return some (cells.extract start.toNat stop.toNat).toList
    else throw .outOfCells

/-- The tiles in cells, the first of which has the given number. -/
def putsFrom (d : Dimensions) (i : Counter) : List Cell → Except Trap (List Put)
  | [] => return []
  | none :: rest => do
    let next ← i.checkedAdd 1
    d.putsFrom next rest
  | some token :: rest => do
    let row ← i.checkedDiv d.cols
    let col ← i.checkedMod d.cols
    let next ← i.checkedAdd 1
    let later ← d.putsFrom next rest
    return ⟨⟨row, col⟩, token⟩ :: later

/-- The tiles in the cells of a board. -/
def puts (d : Dimensions) (cells : Array Cell) : Except Trap (List Put) :=
  d.putsFrom 0 cells.toList

variable {size : Size} {board : Board}

theorem exists_area (size : Size) :
    ∃ area, size.dimensions.area = .ok area ∧ area.toNat = size.area := by
  have hlt : size.dimensions.rows.toNat * size.dimensions.cols.toNat < 2 ^ 64 := by
    rw [Size.toNat_dimensions_rows, Size.toNat_dimensions_cols]
    exact size.area_lt_word
  obtain ⟨area, harea, hvalue⟩ := Counter.exists_checkedMul hlt
  rw [Size.toNat_dimensions_rows, Size.toNat_dimensions_cols] at hvalue
  exact ⟨area, harea, hvalue⟩

/-- Only dimensions that are accepted are safe: these have more cells than a word can count. -/
example : area ⟨9223372036854775809, 2⟩ = .error .overflow := by decide

/-! ### Cells -/

/-- The cell is on the board if its counters say so. -/
theorem on_iff {row col : Counter} :
    row < size.dimensions.rows ∧ col < size.dimensions.cols ↔
      row.toNat < size.rows ∧ col.toNat < size.cols := by
  rw [UInt64.lt_iff_toNat_lt, UInt64.lt_iff_toNat_lt, Size.toNat_dimensions_rows, Size.toNat_dimensions_cols]

/-- **The number of a cell of the board** is a word, and so is that of the first cell in its row. -/
theorem exists_index? {row col : Counter} (hr : row.toNat < size.rows) (hc : col.toNat < size.cols) :
    ∃ i, size.dimensions.index? row col = .ok (some i) ∧ i.toNat = size.index row.toNat col.toNat := by
  have hword := size.area_lt_word
  have hlt : row.toNat * size.cols + col.toNat < size.area := Size.index_lt_area hr hc
  obtain ⟨start, hstart, hstartValue⟩ := Counter.exists_checkedMul
    (a := row) (b := size.dimensions.cols) (by rw [Size.toNat_dimensions_cols]; omega)
  rw [Size.toNat_dimensions_cols] at hstartValue
  obtain ⟨i, hi, hvalue⟩ := Counter.exists_checkedAdd (a := start) (b := col) (by omega)
  refine ⟨i, ?_, ?_⟩
  · simp only [index?, if_pos (on_iff.mpr ⟨hr, hc⟩), hstart, hi, Trap.ok_bind, Trap.pure_eq_ok]
  · rw [hvalue, hstartValue, Size.index]

theorem index?_of_not_lt {row col : Counter} (h : ¬ (row.toNat < size.rows ∧ col.toNat < size.cols)) :
    size.dimensions.index? row col = .ok none :=
  if_neg (mt on_iff.mp h)

theorem index?_eq (board : Board) (row col : Counter) :
    (board.size.dimensions.index? row col).map (Option.map (·.toNat)) =
      .ok (board.index? row.toNat col.toNat) := by
  by_cases hon : row.toNat < board.size.rows ∧ col.toNat < board.size.cols
  · obtain ⟨i, hi, hvalue⟩ := exists_index? hon.1 hon.2
    rw [hi, Board.index?_of_lt hon.1 hon.2, ← hvalue]
    rfl
  · rw [index?_of_not_lt hon, Board.index?_of_not_lt hon]
    rfl

/-! ### Rows -/

/-- **A row is cut out of the cells** between two words, and there are cells up to its end. -/
theorem row?_eq (h : board.WellFormed) (row : Counter) :
    board.size.dimensions.row? board.cells row = .ok (board.row? row.toNat) := by
  have hfirst : (0 : Counter).toNat < board.size.cols := board.size.cols_pos
  by_cases hr : row.toNat < board.size.rows
  · obtain ⟨start, hstart, hvalue⟩ := exists_index? hr hfirst
    have hend : start.toNat + board.size.cols ≤ board.cells.size := by
      rw [hvalue]
      exact h.index_row_le hr
    have hword := board.size.area_lt_word
    have hcells := h.size_cells
    obtain ⟨stop, hstop, hstopValue⟩ := Counter.exists_checkedAdd
      (a := start) (b := board.size.dimensions.cols) (by rw [Size.toNat_dimensions_cols]; omega)
    rw [Size.toNat_dimensions_cols] at hstopValue
    have hrow : board.row? row.toNat =
        some (board.cells.extract start.toNat stop.toNat).toList := by
      rw [Board.row?, Board.index?_of_lt hr board.size.cols_pos, hstopValue, hvalue]
      rfl
    rw [row?, hstart, hrow]
    simp only [hstop, hstopValue, if_pos hend, Trap.ok_bind, Trap.pure_eq_ok]
  · have hoff : ¬ (row.toNat < board.size.rows ∧ (0 : Counter).toNat < board.size.cols) :=
      fun h => hr h.1
    have hnone : board.index? row.toNat 0 = none := Board.index?_of_not_lt hoff
    rw [row?, index?_of_not_lt hoff, Board.row?, hnone]
    rfl

/-! ### Tiles -/

/-- The tiles in cells whose numbers are those of cells of a board.  Induction on the cells: the number
behind that of a cell is at most the number of all cells. -/
theorem exists_putsFrom (size : Size) : ∀ (cells : List Cell) (i : Counter),
    i.toNat + cells.length ≤ size.area →
      ∃ puts, size.dimensions.putsFrom i cells = .ok puts ∧
        puts.map Put.placement = (cells.zipIdx i.toNat).filterMap fun (cell, i) =>
          cell.map fun token => ⟨i / size.cols, i % size.cols, token⟩ := by
  have hword := size.area_lt_word
  intro cells
  induction cells with
  | nil => intro i _; exact ⟨[], rfl, rfl⟩
  | cons cell rest ih =>
    intro i hi
    rw [List.length_cons] at hi
    obtain ⟨next, hnext, hnextValue⟩ := Counter.exists_checkedAdd_one (a := i) (by omega)
    obtain ⟨later, hlater, hplacements⟩ := ih next (by omega)
    rw [hnextValue] at hplacements
    cases cell with
    | none =>
      refine ⟨later, ?_, hplacements⟩
      simp only [putsFrom, hnext, hlater, Trap.ok_bind]
    | some token =>
      have hcols : 0 < size.dimensions.cols.toNat := by
        rw [Size.toNat_dimensions_cols]
        exact size.cols_pos
      obtain ⟨row, hrow, hrowValue⟩ := Counter.exists_checkedDiv (a := i) hcols
      obtain ⟨col, hcol, hcolValue⟩ := Counter.exists_checkedMod (a := i) hcols
      rw [Size.toNat_dimensions_cols] at hrowValue hcolValue
      refine ⟨⟨⟨row, col⟩, token⟩ :: later, ?_, ?_⟩
      · simp only [putsFrom, hrow, hcol, hnext, hlater, Trap.ok_bind, Trap.pure_eq_ok]
      · rw [List.map_cons, hplacements, Put.placement, hrowValue, hcolValue, List.zipIdx_cons]
        rfl

/-- **The tiles of a board** are listed without a division by 0. -/
theorem exists_puts (h : board.WellFormed) :
    ∃ puts, board.size.dimensions.puts board.cells = .ok puts ∧
      puts.map Put.placement = board.placements := by
  refine exists_putsFrom board.size board.cells.toList 0 ?_
  rw [UInt64.toNat_zero, Nat.zero_add, h.length_cells]
  exact Nat.le_refl _

end Dimensions

end Tileboard
