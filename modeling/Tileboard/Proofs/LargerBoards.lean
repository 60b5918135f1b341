import Tileboard.Proofs.BlockRows
import Tileboard.Proofs.Packing
import Mathlib.Algebra.Order.BigOperators.Group.List

/-!
What becomes of lines on a larger board.

More columns move every place where a row is full, so two walks over boards of different widths are
not compared cell by cell.  They are compared by the rows of their blocks instead.

1. **Rows** — a block takes no more rows where the rows are wider (`Size.rowsFor_le_rowsFor`), so
   neither does a layout, and it fits where it fitted before (`exists_rows?_le`).

2. **Success and choice** — a larger board has a cell for each line if the smaller one has, and thread
   rows are used on it if they are on the smaller one (`usesThreadRows_of_within`).

3. **Cells** — with the same number of columns the two walks are the same as long as the smaller board
   has a row for them (`ofLinesFrom_eq_of_cols_eq`).  So more rows move no tile that thread rows have
   placed.

`ofLines_on_larger` puts these together.
-/

namespace Tileboard

namespace Size

/-- The size has no more rows and no more columns than the other. -/
structure Within (size size' : Size) : Prop where
  rows_le : size.rows ≤ size'.rows
  cols_le : size.cols ≤ size'.cols

variable {size size' : Size}

theorem Within.area_le (h : size.Within size') : size.area ≤ size'.area :=
  Nat.mul_le_mul h.rows_le h.cols_le

/-- Wider rows are no more rows. -/
theorem rowsFor_le_rowsFor (h : size.cols ≤ size'.cols) (n : Nat) :
    size'.rowsFor n ≤ size.rowsFor n := by
  cases n with
  | zero => rw [rowsFor_zero, rowsFor_zero]
  | succ n =>
    rw [rowsFor_succ, rowsFor_succ]
    exact Nat.succ_le_succ (Nat.div_le_div_left h size.cols_pos)

theorem rowsOf_le_rowsOf {α : Type} (h : size.cols ≤ size'.cols) (blocks : List (List α)) :
    size'.rowsOf blocks ≤ size.rowsOf blocks :=
  List.sum_le_sum fun block _ => rowsFor_le_rowsFor h block.length

end Size

namespace Layout

variable {size size' : Size} {packing : Packing} {lines : List Line}

/-! ## Rows -/

theorem rows?_eq_some_iff {rows : Nat} : (ofLines size packing lines).rows? = some rows ↔
    rows = size.rowsOf (Blocks.cut (Line.opens packing) lines) ∧ rows ≤ size.rows := by
  rw [rows?_ofLines, Size.fit?]
  split
  · next hfit =>
    rw [Option.some.injEq]
    exact ⟨fun h => ⟨h.symm, h ▸ hfit⟩, fun h => h.1.symm⟩
  · next hfit => exact ⟨fun h => (nomatch h), fun h => absurd (h.1 ▸ h.2) hfit⟩

/-- **A layout takes no more rows on a larger board**, in either packing. -/
theorem exists_rows?_le (h : size.Within size') {rows : Nat}
    (hrows : (ofLines size packing lines).rows? = some rows) :
    ∃ rows', (ofLines size' packing lines).rows? = some rows' ∧ rows' ≤ rows := by
  obtain ⟨rfl, hfit⟩ := rows?_eq_some_iff.mp hrows
  have hle := Size.rowsOf_le_rowsOf h.cols_le (Blocks.cut (Line.opens packing) lines)
  have hrow := h.rows_le
  exact ⟨_, rows?_eq_some_iff.mpr ⟨rfl, by omega⟩, hle⟩

theorem isSome_rows?_of_within (h : size.Within size')
    (hsome : (ofLines size packing lines).rows?.isSome = true) :
    (ofLines size' packing lines).rows?.isSome = true := by
  obtain ⟨rows, hrows⟩ := Option.isSome_iff_exists.mp hsome
  obtain ⟨rows', hrows', -⟩ := exists_rows?_le h hrows
  rw [hrows']
  rfl

/-! ## The choice of the packing -/

/-- **Thread rows are used on a larger board too.** -/
theorem usesThreadRows_of_within (h : size.Within size') (huses : usesThreadRows size lines = true) :
    usesThreadRows size' lines = true := by
  obtain ⟨hmarker, hsome⟩ := usesThreadRows_eq_true_iff.mp huses
  exact usesThreadRows_eq_true_iff.mpr ⟨hmarker, isSome_rows?_of_within h hsome⟩

/-! ## Cells -/

/-- The rule for the next cell knows the columns of the board, and not its rows. -/
theorem settle_eq_of_cols_eq (h : size'.cols = size.cols) (line : Line) (c : Cursor) :
    c.settle size' packing line = c.settle size packing line := by
  rw [Cursor.settle, Cursor.settle, h]

/-- **More rows change no layout that has found room.** -/
theorem ofLinesFrom_eq_of_cols_eq (hcols : size'.cols = size.cols) (hrows : size.rows ≤ size'.rows) :
    ∀ (lines : List Line) (c : Cursor), (ofLinesFrom size packing c lines).rows?.isSome = true →
      ofLinesFrom size' packing c lines = ofLinesFrom size packing c lines := by
  intro lines
  induction lines with
  | nil => intro c _; rfl
  | cons line rest ih =>
    intro c h
    have hcell : c.settle size' packing line = c.settle size packing line :=
      settle_eq_of_cols_eq hcols line c
    rcases Nat.lt_or_ge (c.settle size packing line).row size.rows with hr | hr
    · have hr' : (c.settle size' packing line).row < size'.rows := by
        rw [hcell]
        omega
      rw [ofLinesFrom_cons_of_lt hr] at h
      rw [ofLinesFrom_cons_of_lt hr', ofLinesFrom_cons_of_lt hr, hcell]
      dsimp only
      rw [ih _ h]
    · rw [ofLinesFrom_cons_of_ge hr] at h
      exact absurd h (by decide)

theorem ofLines_eq_of_cols_eq (h : size.Within size') (hcols : size'.cols = size.cols)
    (hsome : (ofLines size packing lines).rows?.isSome = true) :
    ofLines size' packing lines = ofLines size packing lines :=
  ofLinesFrom_eq_of_cols_eq hcols h.rows_le lines Cursor.start hsome

/-- Lines in thread rows keep their cells when the board gets more rows. -/
theorem chosen_eq_of_cols_eq (h : size.Within size') (hcols : size'.cols = size.cols)
    (huses : usesThreadRows size lines = true) : chosen size' lines = chosen size lines := by
  have hsome := (usesThreadRows_eq_true_iff.mp huses).2
  rw [chosen, chosen, choosePacking_of_uses huses,
    choosePacking_of_uses (usesThreadRows_of_within h huses), ofLines_eq_of_cols_eq h hcols hsome]

end Layout

namespace Board

open Layout

/-! ## Result -/

theorem exists_ofLines_of_within {size size' : Size} {lines : List Line} (h : size.Within size')
    (hfit : ∃ board, ofLines lines size = .ok board) : ∃ board, ofLines lines size' = .ok board :=
  exists_ofLines_iff.mpr (Nat.le_trans (exists_ofLines_iff.mp hfit) h.area_le)

/-- **A larger board never hurts.**  For lines on a board, and on another one with no fewer rows and
no fewer columns:

* if thread rows are used on the first one, they are used on the second one, and take no more rows
  there;
* if the lines become a board of the first size, they become one of the second size;
* if there are thread rows on the first one, and the second one has more rows but not more columns,
  each line has the same cell on both, and the two boards have the same tiles in the same cells. -/
theorem ofLines_on_larger {size size' : Size} (h : size.Within size') (lines : List Line) :
    (usesThreadRows size lines = true → usesThreadRows size' lines = true ∧
      ∃ rows rows', (Layout.ofLines size .threadRows lines).rows? = some rows ∧
        (Layout.ofLines size' .threadRows lines).rows? = some rows' ∧ rows' ≤ rows) ∧
    ((∃ board, ofLines lines size = .ok board) → ∃ board', ofLines lines size' = .ok board') ∧
    (size'.cols = size.cols → usesThreadRows size lines = true →
      ∃ board board', ofLines lines size = .ok board ∧ ofLines lines size' = .ok board' ∧
        (chosen size' lines).placed = (chosen size lines).placed ∧
        board'.placements = board.placements) := by
  refine ⟨fun huses => ⟨usesThreadRows_of_within h huses, ?_⟩, exists_ofLines_of_within h,
    fun hcols huses => ?_⟩
  · obtain ⟨rows, hrows⟩ := Option.isSome_iff_exists.mp (usesThreadRows_eq_true_iff.mp huses).2
    obtain ⟨rows', hrows', hle⟩ := exists_rows?_le h hrows
    exact ⟨rows, rows', hrows, hrows', hle⟩
  · have hsame := chosen_eq_of_cols_eq h hcols huses
    obtain ⟨board, hboard⟩ :=
      exists_ofLines_iff.mpr (length_le_of_isSome (usesThreadRows_eq_true_iff.mp huses).2)
    obtain ⟨board', hboard'⟩ := exists_ofLines_of_within h ⟨board, hboard⟩
    refine ⟨board, board', hboard, hboard', by rw [hsame], ?_⟩
    -- the tiles of a board are the valid ones of its layout
    rw [placements_of_pack hboard', placements_of_pack hboard]
    exact congrArg (fun layout => layout.placed.filter (·.token.valid)) hsame

/-- A marker in mid-row on a board of two rows and two columns: it takes two rows on a wider board
too, and stands in the same cell on a taller one. -/
theorem ofLines_on_larger_two_rows :
    (∃ rows rows', (Layout.ofLines ⟨2, 2, by decide, by decide, by decide⟩ .threadRows
          (Script.ofTokens [.plain .play, .plain .thread2])).rows? = some rows ∧
        (Layout.ofLines ⟨3, 3, by decide, by decide, by decide⟩ .threadRows
          (Script.ofTokens [.plain .play, .plain .thread2])).rows? = some rows' ∧ rows' ≤ rows) ∧
      ∃ board board',
        ofTokens [.plain .play, .plain .thread2] ⟨2, 2, by decide, by decide, by decide⟩ =
          .ok board ∧
        ofTokens [.plain .play, .plain .thread2] ⟨3, 2, by decide, by decide, by decide⟩ =
          .ok board' ∧ board'.placements = board.placements := by
  have huses : usesThreadRows ⟨2, 2, by decide, by decide, by decide⟩
      (Script.ofTokens [.plain .play, .plain .thread2]) = true := by decide
  have hwider : Size.Within ⟨2, 2, by decide, by decide, by decide⟩
      ⟨3, 3, by decide, by decide, by decide⟩ := ⟨by decide, by decide⟩
  have htaller : Size.Within ⟨2, 2, by decide, by decide, by decide⟩
      ⟨3, 2, by decide, by decide, by decide⟩ := ⟨by decide, by decide⟩
  obtain ⟨hrows, -, -⟩ := ofLines_on_larger hwider (Script.ofTokens [.plain .play, .plain .thread2])
  obtain ⟨-, -, hcells⟩ :=
    ofLines_on_larger htaller (Script.ofTokens [.plain .play, .plain .thread2])
  obtain ⟨board, board', hboard, hboard', -, hsame⟩ := hcells rfl huses
  exact ⟨(hrows huses).2, board, board', hboard, hboard', hsame⟩

end Board

end Tileboard
