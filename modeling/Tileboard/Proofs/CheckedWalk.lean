import Tileboard.Proofs.CheckedCounters
import Tileboard.Proofs.CursorWalk

/-!
Layouts in 64 bits: the cursor is in front of every line on the board, and its counters never overflow.

The walk of the cursor is done over again with counters, test by test, and it also keeps where the cursor
is in front of each line.

1. **One line** — `exists_settle`: the cursor moves as it does with natural numbers.  A marker in the last
   row takes it right below the board, and so does a line behind the last cell; but the rows are counted
   up by one only from a row of the board, and the walk is over when there is no such row.

2. **The walk** — `exists_walkFrom`: by induction on the lines, the layout comes out as it does with natural
   numbers, and where a line has been put, the cursor is in front of the next one in a row of the board.

3. **Headline** — `counting_is_exact`, for sizes, boards and layouts together.
-/

namespace Tileboard

/-! ## The walk in counters -/

namespace Position

/-- The place in natural numbers. -/
def cursor (p : Position) : Cursor :=
  ⟨p.row.toNat, p.col.toNat⟩

/-- The place in front of the first cell. -/
def start : Position :=
  ⟨0, 0⟩

/-- The place in front of the next row. -/
def nextRow (p : Position) : Except Trap Position := do
  let row ← p.row.checkedAdd 1
  return ⟨row, 0⟩

/-- The place behind the cell in front of it. -/
def step (p : Position) : Except Trap Position := do
  let col ← p.col.checkedAdd 1
  return ⟨p.row, col⟩

/-- Whether the packing starts a new row at the line, because it is a marker in mid-row. -/
def breaksRow (packing : Packing) (line : Line) (p : Position) : Bool :=
  packing == .threadRows && line.isMarker && p.col != 0

/-- The place is in a row of the board, and not past its end. -/
def InFront (d : Dimensions) (p : Position) : Prop :=
  p.row < d.rows ∧ p.col ≤ d.cols

/-- The place is that of a cell of the board. -/
def On (d : Dimensions) (p : Position) : Prop :=
  p.row < d.rows ∧ p.col < d.cols

end Position

/-- A walk through lines: the place in front of each line that it comes to, the tiles that it puts, and
the number of rows it uses if it reaches the end. -/
structure Walk where
  before : List Position
  puts : List Put
  rows? : Option Counter
  deriving DecidableEq, Repr

/-- What the walk gives, in natural numbers. -/
def Walk.layout (walk : Walk) : Layout :=
  ⟨walk.puts.map Put.placement, walk.rows?.map (·.toNat)⟩

/-- The counters of a walk are in range: those in front of each line, up to the first that has no cell, and
those of each tile. -/
structure Walk.InRange (d : Dimensions) (lines : List Line) (walk : Walk) : Prop where
  before : ∀ p ∈ walk.before, p.InFront d
  length_before : walk.before.length = min lines.length (walk.puts.length + 1)
  puts : ∀ put ∈ walk.puts, put.position.On d

namespace Dimensions

/-- The place, if it is in a row of the board. -/
def within? (d : Dimensions) (p : Position) : Option Position :=
  if d.rows ≤ p.row then none else some p

/-- The cell that the line is given; none if there is no row left.  The row is tested behind a row break,
and once more behind the end of a row. -/
def settle (d : Dimensions) (packing : Packing) (line : Line) (p : Position) :
    Except Trap (Option Position) := do
  let p ← if p.breaksRow packing line then p.nextRow else pure p
  match d.within? p with
  | none => return none
  | some p =>
    if d.cols ≤ p.col then do
      let p ← p.nextRow
      return d.within? p
    else return some p

/-- The walk from a place on that is in mid-row or in front of a line. -/
def walkFrom (d : Dimensions) (packing : Packing) (p : Position) : List Line → Except Trap Walk
  | [] => do
    let rows ← p.row.checkedAdd 1
    return ⟨[], [], some rows⟩
  | line :: rest => do
    match ← d.settle packing line p with
    | none => return ⟨[p], [], none⟩
    | some cell =>
      let behind ← cell.step
      let after ← d.walkFrom packing behind rest
      return ⟨p :: after.before, ⟨cell, line.token⟩ :: after.puts, after.rows?⟩

/-- The walk through lines from the first cell on. -/
def walk (d : Dimensions) (packing : Packing) (lines : List Line) : Except Trap Walk :=
  if lines.isEmpty then return ⟨[], [], some 0⟩ else d.walkFrom packing .start lines

end Dimensions

/-! ## One line -/

namespace Position

variable {size : Size} {packing : Packing} {line : Line} {p : Position}

theorem inFront_iff : p.InFront size.dimensions ↔
    p.cursor.row < size.rows ∧ p.cursor.col ≤ size.cols := by
  rw [InFront, UInt64.lt_iff_toNat_lt, UInt64.le_iff_toNat_le, Size.toNat_dimensions_rows,
    Size.toNat_dimensions_cols]
  rfl

theorem on_iff : p.On size.dimensions ↔ p.cursor.row < size.rows ∧ p.cursor.col < size.cols :=
  Dimensions.on_iff

theorem exists_nextRow (h : p.cursor.row < size.rows) :
    ∃ next, p.nextRow = .ok next ∧ next.cursor = p.cursor.nextRow := by
  have hrow : p.row.toNat < size.rows := h
  have hrows := size.rows_le
  obtain ⟨row, hnext, hvalue⟩ := Counter.exists_checkedAdd_one (a := p.row) (by omega)
  refine ⟨⟨row, 0⟩, ?_, ?_⟩
  · rw [nextRow, hnext]
    rfl
  · rw [cursor, hvalue]
    rfl

theorem exists_step (h : p.cursor.col < size.cols) :
    ∃ behind, p.step = .ok behind ∧ behind.cursor = p.cursor.step := by
  have hcol : p.col.toNat < size.cols := h
  have hcols := size.cols_le
  obtain ⟨col, hstep, hvalue⟩ := Counter.exists_checkedAdd_one (a := p.col) (by omega)
  refine ⟨⟨p.row, col⟩, ?_, ?_⟩
  · rw [step, hstep]
    rfl
  · rw [cursor, hvalue]
    rfl

theorem breaksRow_eq (packing : Packing) (line : Line) (p : Position) :
    p.breaksRow packing line = p.cursor.breaksRow packing line := by
  have hcol : (p.col != 0) = (p.cursor.col != 0) := by
    rw [Bool.eq_iff_iff, bne_iff_ne, bne_iff_ne, ne_eq, ne_eq, ← UInt64.toNat_inj]
    rfl
  rw [breaksRow, Cursor.breaksRow, hcol]

end Position

namespace Dimensions

variable {size : Size} {packing : Packing} {line : Line} {p : Position}

theorem rows_le_iff : size.dimensions.rows ≤ p.row ↔ size.rows ≤ p.cursor.row := by
  rw [UInt64.le_iff_toNat_le, Size.toNat_dimensions_rows]
  rfl

theorem cols_le_iff : size.dimensions.cols ≤ p.col ↔ size.cols ≤ p.cursor.col := by
  rw [UInt64.le_iff_toNat_le, Size.toNat_dimensions_cols]
  rfl

theorem within?_of_lt (h : p.cursor.row < size.rows) : size.dimensions.within? p = some p :=
  if_neg (mt rows_le_iff.mp (Nat.not_le.mpr h))

theorem within?_of_ge (h : size.rows ≤ p.cursor.row) : size.dimensions.within? p = none :=
  if_pos (rows_le_iff.mpr h)

theorem map_within? (size : Size) (p : Position) :
    (size.dimensions.within? p).map Position.cursor =
      if p.cursor.row < size.rows then some p.cursor else none := by
  rcases Nat.lt_or_ge p.cursor.row size.rows with hr | hr
  · rw [within?_of_lt hr, if_pos hr]
    rfl
  · rw [within?_of_ge hr, if_neg (Nat.not_lt.mpr hr)]
    rfl

/-- A marker in mid-row is given the first cell of the next row, if there is one. -/
theorem settle_of_breaks {next : Position} (hbreaks : p.breaksRow packing line = true)
    (hnext : p.nextRow = .ok next) (hcol : next.cursor.col = 0) :
    size.dimensions.settle packing line p = .ok (size.dimensions.within? next) := by
  simp only [settle, if_pos hbreaks, hnext, Trap.ok_bind]
  rcases Nat.lt_or_ge next.cursor.row size.rows with hr | hr
  · have hcells : ¬ size.dimensions.cols ≤ next.col := by
      rw [cols_le_iff, hcol]
      exact Nat.not_le.mpr size.cols_pos
    simp only [within?_of_lt hr, if_neg hcells, Trap.pure_eq_ok]
  · simp only [within?_of_ge hr, Trap.pure_eq_ok]

/-- Any other line is given the cell in front of the cursor, which behind the last column is the first cell
of the next row. -/
theorem settle_of_stays (hbreaks : p.breaksRow packing line = false) (hr : p.cursor.row < size.rows) :
    size.dimensions.settle packing line p =
      if size.dimensions.cols ≤ p.col then do return size.dimensions.within? (← p.nextRow)
      else .ok (some p) := by
  have hstays : ¬ p.breaksRow packing line = true := by rw [hbreaks]; decide
  simp only [settle, if_neg hstays, Trap.pure_eq_ok, Trap.ok_bind, within?_of_lt hr]

/-- **One line moves the cursor** as it does with natural numbers: to the cell where the line settles, if
that is on the board. -/
theorem exists_settle (packing : Packing) (line : Line) (h : p.InFront size.dimensions) :
    ∃ cell, size.dimensions.settle packing line p = .ok cell ∧
      cell.map Position.cursor =
        if (p.cursor.settle size packing line).row < size.rows
        then some (p.cursor.settle size packing line) else none := by
  have hr : p.cursor.row < size.rows := (Position.inFront_iff.mp h).1
  obtain ⟨next, hnext, hcursor⟩ := Position.exists_nextRow hr
  have hsame : p.breaksRow packing line = p.cursor.breaksRow packing line :=
    Position.breaksRow_eq packing line p
  cases hbreaks : p.breaksRow packing line with
  | true =>
    rw [Cursor.settle_of_breaks (hsame.symm.trans hbreaks), ← hcursor]
    exact ⟨_, settle_of_breaks hbreaks hnext (congrArg Cursor.col hcursor), map_within? size next⟩
  | false =>
    rw [Cursor.settle_of_stays (hsame.symm.trans hbreaks), settle_of_stays hbreaks hr]
    by_cases hcol : size.cols ≤ p.cursor.col
    · rw [if_pos hcol, if_pos (cols_le_iff.mpr hcol), ← hcursor, hnext]
      exact ⟨_, rfl, map_within? size next⟩
    · rw [if_neg hcol, if_neg (mt cols_le_iff.mp hcol), if_pos hr]
      exact ⟨_, rfl, rfl⟩

/-! ## The walk -/

/-- **A walk gives the layout of its lines**, and its counters are in range.  Induction on the lines: behind
the cell of a line the cursor is in front of the next one, and no longer at the start of its row. -/
theorem exists_walkFrom (size : Size) (packing : Packing) : ∀ (lines : List Line) (p : Position),
    p.InFront size.dimensions → (lines = [] → p.cursor.col ≠ 0) →
      ∃ walk, size.dimensions.walkFrom packing p lines = .ok walk ∧
        walk.layout = Layout.ofLinesFrom size packing p.cursor lines ∧
        walk.InRange size.dimensions lines := by
  intro lines
  induction lines with
  | nil =>
    intro p hp hcol
    have hrow : p.row.toNat < size.rows := (Position.inFront_iff.mp hp).1
    have hrows := size.rows_le
    obtain ⟨rows, hend, hvalue⟩ := Counter.exists_checkedAdd_one (a := p.row) (by omega)
    refine ⟨⟨[], [], some rows⟩, ?_, ?_, ⟨by simp, rfl, by simp⟩⟩
    · rw [walkFrom, hend]
      rfl
    · rw [Layout.ofLinesFrom, Cursor.rowsUsed, if_neg (hcol rfl), Position.cursor, ← hvalue]
      rfl
  | cons line rest ih =>
    intro p hp _
    obtain ⟨cell, hsettle, hcell⟩ := exists_settle packing line hp
    rcases Nat.lt_or_ge (p.cursor.settle size packing line).row size.rows with hr | hr
    · -- the line has a cell of the board, and the walk goes on behind it
      rw [if_pos hr] at hcell
      obtain ⟨cell, rfl, hcursor⟩ := Option.map_eq_some_iff.mp hcell
      have hcol : cell.cursor.col < size.cols := by
        rw [hcursor]
        exact Cursor.settle_col_lt size packing line p.cursor
      have hon : cell.On size.dimensions := Position.on_iff.mpr ⟨by rwa [hcursor], hcol⟩
      obtain ⟨behind, hstep, hbehind⟩ := Position.exists_step hcol
      have hfront : behind.InFront size.dimensions := by
        rw [Position.inFront_iff, hbehind, hcursor]
        exact ⟨hr, Cursor.step_settle_col_le size packing line p.cursor⟩
      have hleft : rest = [] → behind.cursor.col ≠ 0 := fun _ => by
        rw [hbehind]
        exact Nat.succ_ne_zero _
      obtain ⟨after, hafter, hlayout, hrange⟩ := ih behind hfront hleft
      refine ⟨⟨p :: after.before, ⟨cell, line.token⟩ :: after.puts, after.rows?⟩, ?_, ?_,
        ⟨?_, ?_, ?_⟩⟩
      · simp only [walkFrom, hsettle, hstep, hafter, Trap.ok_bind, Trap.pure_eq_ok]
      · rw [hbehind] at hlayout
        simp only [Layout.ofLinesFrom_cons_of_lt hr, ← hcursor, ← hlayout]
        rfl
      · exact List.forall_mem_cons.mpr ⟨hp, hrange.before⟩
      · have hlength := hrange.length_before
        simp only [List.length_cons]
        omega
      · exact List.forall_mem_cons.mpr ⟨hon, hrange.puts⟩
    · -- no row is left, and the line is the last one that the walk comes to
      rw [if_neg (Nat.not_lt.mpr hr), Option.map_eq_none_iff] at hcell
      subst hcell
      refine ⟨⟨[p], [], none⟩, ?_, ?_, ⟨by simpa using hp, by simp, by simp⟩⟩
      · simp only [walkFrom, hsettle, Trap.ok_bind, Trap.pure_eq_ok]
      · rw [Layout.ofLinesFrom_cons_of_ge hr]
        rfl

theorem exists_walk (size : Size) (packing : Packing) (lines : List Line) :
    ∃ walk, size.dimensions.walk packing lines = .ok walk ∧
      walk.layout = Layout.ofLines size packing lines ∧ walk.InRange size.dimensions lines := by
  cases lines with
  | nil => exact ⟨⟨[], [], some 0⟩, rfl, rfl, by simp, rfl, by simp⟩
  | cons line rest =>
    refine exists_walkFrom size packing (line :: rest) .start ?_ (by simp)
    exact Position.inFront_iff.mpr ⟨size.rows_pos, Nat.zero_le _⟩

/-! ## Headline -/

/-- **Counting in words of 64 bits is exact**, and never stops.

* For any two words, making dimensions gives `empty` exactly if one of them is 0, succeeds exactly if
  the product of the two as natural numbers is from 1 to 4096, and gives `tooLarge` exactly if it is above
  4096.  A product that is small only in words is refused like any other that is too large.
* With the dimensions that are accepted, the number of cells, the number of any cell, any row and the list
  of the tiles of a board come out as they do with natural numbers, whatever words are given for row and
  column.  No sum or product is too large for a word, no divisor is 0, and no row ends behind the cells.
* The walk through any lines, in both packings, gives their layout.  In front of each line, up to the first
  that has no cell, the cursor is in a row of the board and not past its end, and each tile is put in a row
  and a column of the board. -/
theorem counting_is_exact :
    (∀ rows cols : Counter,
      (make rows cols = .error .empty ↔ rows = 0 ∨ cols = 0) ∧
      (make rows cols = .ok ⟨rows, cols⟩ ↔
        1 ≤ rows.toNat * cols.toNat ∧ rows.toNat * cols.toNat ≤ 4096) ∧
      (make rows cols = .error (.tooLarge rows.toNat cols.toNat) ↔
        4096 < rows.toNat * cols.toNat) ∧
      make rows cols = (Size.make rows.toNat cols.toNat).map Size.dimensions) ∧
    ∀ (rows cols : Counter) (d : Dimensions), make rows cols = .ok d →
      ∃ size, Size.make rows.toNat cols.toNat = .ok size ∧
        d.rows.toNat = size.rows ∧ d.cols.toNat = size.cols ∧
        (∃ area, d.area = .ok area ∧ area.toNat = size.area) ∧
        (∀ board, Board.Reachable board → board.size = size →
          (∀ row col, (d.index? row col).map (Option.map (·.toNat)) =
            .ok (board.index? row.toNat col.toNat)) ∧
          (∀ row, d.row? board.cells row = .ok (board.row? row.toNat)) ∧
          ∃ puts, d.puts board.cells = .ok puts ∧ puts.map Put.placement = board.placements) ∧
        ∀ packing lines, ∃ walk, d.walk packing lines = .ok walk ∧
          walk.layout = Layout.ofLines size packing lines ∧
          walk.before.length = min lines.length (walk.puts.length + 1) ∧
          (∀ p ∈ walk.before, p.row < d.rows ∧ p.col ≤ d.cols) ∧
          ∀ put ∈ walk.puts, put.position.row < d.rows ∧ put.position.col < d.cols := by
  refine ⟨fun rows cols => ⟨make_eq_empty_iff, make_eq_ok_iff, make_eq_tooLarge_iff,
    make_eq rows cols⟩, fun rows cols d hmake => ?_⟩
  obtain ⟨size, hsize, rfl⟩ := exists_size_of_make hmake
  refine ⟨size, hsize, size.toNat_dimensions_rows, size.toNat_dimensions_cols, exists_area size,
    ?_, ?_⟩
  · rintro board hreach rfl
    have hwf := hreach.wellFormed
    exact ⟨index?_eq board, row?_eq hwf, exists_puts hwf⟩
  · intro packing lines
    obtain ⟨walk, hwalk, hlayout, hrange⟩ := exists_walk size packing lines
    exact ⟨walk, hwalk, hlayout, hrange.length_before, hrange.before, hrange.puts⟩

/-- The product of 9223372036854775809 and 2 is 2 in words, and is refused.  On two rows and three columns, a
tile is found in the second row, and a row that is far below the board is not there.  Of four lines, the
third is a marker whose row break leads below the board; it is the last one that the walk comes to. -/
theorem counting_is_exact_on_two_rows :
    (9223372036854775809 * 2 : Counter) = 2 ∧
    make 9223372036854775809 2 = .error (.tooLarge 9223372036854775809 2) ∧
    make 2 3 = .ok ⟨2, 3⟩ ∧
    (∃ board, board = (Board.empty ⟨2, 3, by decide, by decide, by decide⟩).perform
        (.set 1 2 (some (.plain .play))) ∧
      row? ⟨2, 3⟩ board.cells 1 = .ok (some [none, none, some (.plain .play)]) ∧
      row? ⟨2, 3⟩ board.cells 18446744073709551615 = .ok none ∧
      ∃ puts, Dimensions.puts ⟨2, 3⟩ board.cells = .ok puts ∧
        puts.map Put.placement = [⟨1, 2, .plain .play⟩]) ∧
    ∃ walk, Dimensions.walk ⟨2, 3⟩ .threadRows
        (Script.ofTokens [.plain .play, .plain .thread2, .plain .thread1, .plain .play]) = .ok walk ∧
      walk.layout = ⟨[⟨0, 0, .plain .play⟩, ⟨1, 0, .plain .thread2⟩], none⟩ ∧
      walk.before.length = 3 ∧ ∀ p ∈ walk.before, p.row < 2 ∧ p.col ≤ 3 := by
  obtain ⟨hmake, hexact⟩ := counting_is_exact
  have hok : make 2 3 = .ok ⟨2, 3⟩ := (hmake 2 3).2.1.mpr (by decide)
  obtain ⟨size, hsize, -, -, -, hboard, hwalk⟩ := hexact 2 3 ⟨2, 3⟩ hok
  have heq : (⟨2, 3, by decide, by decide, by decide⟩ : Size) = size :=
    Except.ok.inj ((Size.make_rows_cols _).symm.trans hsize)
  subst heq
  have hreach := (Board.Reachable.empty ⟨2, 3, by decide, by decide, by decide⟩).perform
    (.set 1 2 (some (.plain .play)))
  obtain ⟨-, hrow, puts, hputs, hplacements⟩ := hboard _ hreach (by decide +kernel)
  obtain ⟨walk, hgiven, hlayout, hlength, hbefore, -⟩ := hwalk .threadRows
    (Script.ofTokens [.plain .play, .plain .thread2, .plain .thread1, .plain .play])
  have hplaced : walk.layout = ⟨[⟨0, 0, .plain .play⟩, ⟨1, 0, .plain .thread2⟩], none⟩ :=
    hlayout.trans (by decide +kernel)
  have htwo : walk.puts.length = 2 := by
    rw [← List.length_map (f := Put.placement)]
    exact congrArg (·.placed.length) hplaced
  refine ⟨by decide, (hmake _ _).2.2.1.mpr (by decide), hok,
    ⟨_, rfl, (hrow 1).trans (by decide +kernel), (hrow _).trans (by decide +kernel), puts, hputs,
      hplacements.trans (by decide +kernel)⟩, walk, hgiven, hplaced, ?_, hbefore⟩
  rw [hlength, htwo]
  rfl

end Dimensions

end Tileboard
