import Tileboard.Proofs.StrictViews

/-!
The views of a board agree with each other.

A board is seen cell by cell (`get`), row by row (`row?`), as the content of a file (`file`), as a
matrix of labels (`labels`), and as a list of tiles (`placements`).  Each view computes with the array
of cells in its own way; here each is said in terms of `get`.

1. **Rows** — `getRow` is a row as `get` gives it.  On a well-formed board that is what `row?` cuts out
   of the array (`WellFormed.row?_eq`), so the rows of the file (`WellFormed.file_eq`) and of the labels
   (`WellFormed.labels_eq`) are made of the same cells.

2. **Labels** — the dot is the label of the empty cell and of no tile (`Cell.label_eq_dot_iff`).

3. **Tiles** — a tile is listed once (`filter_at`), in reading order (`pairwise_placements`), and none
   is listed exactly if the board is empty (`isEmpty_iff`).

4. **Headline** — `views_agree`, for every board that can be reached.
-/

namespace Tileboard

namespace Board

variable {board : Board}

/-! ## Rows -/

/-- A row of the board, read cell by cell. -/
def getRow (board : Board) (row : Nat) : List Cell :=
  (List.range board.size.cols).map (board.get row)

/-- The rows of the board, read cell by cell. -/
def getRows (board : Board) : List (List Cell) :=
  (List.range board.size.rows).map board.getRow

theorem getElem?_getRow {row col : Nat} (hcol : col < board.size.cols) :
    (board.getRow row)[col]? = some (board.get row col) := by
  rw [getRow, List.getElem?_map, List.getElem?_range hcol, Option.map_some]

theorem getElem?_getRows {row : Nat} (hrow : row < board.size.rows) :
    board.getRows[row]? = some (board.getRow row) := by
  rw [getRows, List.getElem?_map, List.getElem?_range hrow, Option.map_some]

/-- **The piece of the array that belongs to a row** has the cells of the row. -/
theorem WellFormed.take_drop_eq (h : board.WellFormed) {row : Nat} (hrow : row < board.size.rows) :
    (board.cells.toList.drop (row * board.size.cols)).take board.size.cols = board.getRow row := by
  have hend := h.index_row_le hrow
  have hlength : ((board.cells.toList.drop (row * board.size.cols)).take board.size.cols).length =
      (board.getRow row).length := by
    rw [List.length_take, List.length_drop, getRow, List.length_map, List.length_range]
    omega
  refine List.ext_getElem hlength fun col hpiece hcells => ?_
  have hcol : col < board.size.cols := by simpa [getRow] using hcells
  have hindex : board.size.index row col < board.cells.size := by
    rw [h.size_cells]
    exact Size.index_lt_area hrow hcol
  have hcell : board.get row col = board.cells[board.size.index row col] := by
    rw [get_of_lt hrow hcol, Array.getElem?_eq_getElem hindex]
    rfl
  simp only [List.getElem_take, List.getElem_drop, Array.getElem_toList, getRow, List.getElem_map,
    List.getElem_range, hcell, Size.index]

/-- **There is a row above the end of the board**, and it has the cells that are read one by one. -/
theorem WellFormed.row?_eq (h : board.WellFormed) (row : Nat) :
    board.row? row = if row < board.size.rows then some (board.getRow row) else none := by
  split
  · next hrow =>
    rw [row?, index?_of_lt hrow board.size.cols_pos, ← h.take_drop_eq hrow]
    simp [Size.index, List.extract_eq_take_drop]
  · next hrow =>
    rw [row?, index?_of_not_lt fun hon => hrow hon.1]
    rfl

/-- **Leaving out the rows that are not there** leaves out none. -/
theorem WellFormed.filterMap_row? (h : board.WellFormed) :
    (List.range board.size.rows).filterMap board.row? = board.getRows := by
  have hrows : ∀ row ∈ List.range board.size.rows, board.row? row = some (board.getRow row) := by
    intro row hrow
    rw [h.row?_eq, if_pos (List.mem_range.mp hrow)]
  rw [getRows, List.filterMap_congr hrows]
  exact congrFun List.filterMap_eq_map _

theorem WellFormed.rows_eq_getRows (h : board.WellFormed) : board.rows = board.getRows := by
  rw [rows_eq, getRows]
  exact List.map_congr_left fun row hrow => h.take_drop_eq (List.mem_range.mp hrow)

theorem WellFormed.file_eq (h : board.WellFormed) :
    board.file = ⟨board.size.rows, board.size.cols, board.getRows⟩ := by
  rw [file, h.rows_eq_getRows]

theorem WellFormed.labels_eq (h : board.WellFormed) :
    board.labels = board.getRows.map fun row => row.map Cell.label := by
  rw [labels, h.rows_eq_getRows]

end Board

/-! ## Labels -/

/-- Every kind has a name of more than one character. -/
theorem Kind.one_lt_length_displayName (kind : Kind) : 1 < kind.displayName.length := by
  cases kind <;> decide

theorem Token.length_displayName_le (token : Token) :
    token.kind.displayName.length ≤ token.label.length := by
  rw [label]
  split
  · rw [String.length_append, String.length_append, Nat.add_assoc]
    exact Nat.le_add_right ..
  · exact Nat.le_refl _

/-- **The dot is the label of the empty cell alone.** -/
theorem Cell.label_eq_dot_iff {cell : Cell} : cell.label = "." ↔ cell = none := by
  cases cell with
  | none => exact ⟨fun _ => rfl, fun _ => rfl⟩
  | some token =>
    refine ⟨fun h => ?_, fun h => nomatch h⟩
    have hlength : token.label.length = 1 := congrArg String.length h
    have hname := token.kind.one_lt_length_displayName
    have hle := token.length_displayName_le
    omega

namespace Board

variable {board : Board}

/-! ## Tiles -/

/-- **What is listed at a cell** is the tile that the cell holds, once. -/
theorem WellFormed.filter_at (h : board.WellFormed) (row col : Nat) :
    (board.placements.filter fun p => p.row = row ∧ p.col = col) =
      (board.get row col).toList.map fun token => ⟨row, col, token⟩ := by
  have hlisted := orderly_placements h.size_cells
  have hmem : ∀ p, (p ∈ board.placements.filter fun p => p.row = row ∧ p.col = col) ↔
      p ∈ (board.get row col).toList.map fun token => (⟨row, col, token⟩ : Placement) := by
    rintro ⟨r, c, token⟩
    simp only [List.mem_filter, mem_placements_iff h.size_cells, decide_eq_true_eq, List.mem_map,
      Option.mem_toList, Placement.mk.injEq]
    constructor
    · rintro ⟨htoken, rfl, rfl⟩
      exact ⟨token, htoken, rfl, rfl, rfl⟩
    · rintro ⟨token, htoken, rfl, rfl, rfl⟩
      exact ⟨htoken, rfl, rfl⟩
  have hfilter : Orderly board.size 0
      (board.placements.filter fun p => p.row = row ∧ p.col = col) :=
    ⟨fun p hp => hlisted.on p (List.mem_of_mem_filter hp), fun _ _ => Nat.zero_le _,
      hlisted.increasing.filter _⟩
  refine eq_of_orderly hfilter ⟨fun p hp => hfilter.on p ((hmem p).mpr hp),
    fun _ _ => Nat.zero_le _, ?_⟩ hmem
  cases board.get row col with
  | none => exact List.Pairwise.nil
  | some token => exact List.pairwise_singleton ..

/-- **The tiles are listed row by row, and in a row from left to right.** -/
theorem WellFormed.pairwise_placements (h : board.WellFormed) :
    board.placements.Pairwise fun p q => p.row < q.row ∨ p.row = q.row ∧ p.col < q.col := by
  have hlisted := orderly_placements h.size_cells
  refine hlisted.increasing.imp_of_mem fun hp hq hlt => ?_
  exact Size.before_of_index_lt (hlisted.on _ hp).2 (hlisted.on _ hq).2 hlt

theorem isEmpty_iff : board.isEmpty = true ↔ board.placements = [] := by
  rw [← List.map_eq_nil_iff, placements_map_token, tokens, List.filterMap_eq_nil_iff, isEmpty,
    ← Array.all_toList, List.all_eq_true]
  simp only [Option.isNone_iff_eq_none, id_eq]

/-! ## Headline -/

/-- **The views of a board that can be reached agree**, cell by cell:

* a tile is listed with its place exactly if its cell holds it, an occupied cell is listed once, and
  the list goes through the rows from top to bottom and through each from left to right;
* there is a row exactly above the end of the board, with one entry for each column;
* the file has these rows, and none of them is left out;
* the labels are those of the cells, and the dots among them are those of the empty ones;
* the board is empty exactly if no tile is listed. -/
theorem views_agree (h : Reachable board) :
    (∀ row col token, ⟨row, col, token⟩ ∈ board.placements ↔ board.get row col = some token) ∧
    (∀ row col token, board.get row col = some token →
      (board.placements.filter fun p => p.row = row ∧ p.col = col) = [⟨row, col, token⟩]) ∧
    (board.placements.Pairwise fun p q => p.row < q.row ∨ p.row = q.row ∧ p.col < q.col) ∧
    (∀ row, board.row? row = if row < board.size.rows then
      some ((List.range board.size.cols).map (board.get row)) else none) ∧
    board.file = ⟨board.size.rows, board.size.cols, (List.range board.size.rows).map fun row =>
      (List.range board.size.cols).map (board.get row)⟩ ∧
    (List.range board.size.rows).filterMap board.row? = board.file.cells ∧
    (board.labels = (List.range board.size.rows).map fun row =>
      (List.range board.size.cols).map fun col => Cell.label (board.get row col)) ∧
    (∀ row col, Cell.label (board.get row col) = "." ↔ board.get row col = none) ∧
    (board.isEmpty = true ↔ board.placements = []) := by
  have hwf := h.wellFormed
  refine ⟨fun row col token => mem_placements_iff hwf.size_cells, fun row col token hcell => ?_,
    hwf.pairwise_placements, hwf.row?_eq, hwf.file_eq, ?_, ?_, fun _ _ => Cell.label_eq_dot_iff,
    isEmpty_iff⟩
  · rw [hwf.filter_at, hcell]
    rfl
  · rw [hwf.filterMap_row?, hwf.file_eq]
  · rw [hwf.labels_eq, getRows, List.map_map]
    refine List.map_congr_left fun row _ => ?_
    rw [Function.comp_apply, getRow, List.map_map]
    rfl

/-- On a board of two rows and three columns with a tile in each row: the tiles are listed once each, the
rows of the file and of the labels have the empty cells too, and there is no third row. -/
theorem views_agree_on_two_rows :
    ∃ board, board = ((empty ⟨2, 3, by decide, by decide, by decide⟩).perform
        (.set 0 2 (some ⟨.play, 3⟩))).perform (.set 1 0 (some (.plain .thread2))) ∧
      ⟨0, 2, ⟨.play, 3⟩⟩ ∈ board.placements ∧
      (board.placements.filter fun p => p.row = 0 ∧ p.col = 2) = [⟨0, 2, ⟨.play, 3⟩⟩] ∧
      board.row? 0 = some [none, none, some ⟨.play, 3⟩] ∧ board.row? 2 = none ∧
      board.file.cells = [[none, none, some ⟨.play, 3⟩], [some (.plain .thread2), none, none]] ∧
      board.labels = [[".", ".", "Play 4"], ["Thread 2", ".", "."]] ∧
      board.isEmpty = false := by
  have hreach := ((Reachable.empty ⟨2, 3, by decide, by decide, by decide⟩).perform
    (.set 0 2 (some ⟨.play, 3⟩))).perform (.set 1 0 (some (.plain .thread2)))
  obtain ⟨hlisted, honce, -, hrow, hfile, -, hlabels, -, hempty⟩ := views_agree hreach
  have hcell : Board.get (((empty ⟨2, 3, by decide, by decide, by decide⟩).perform
      (.set 0 2 (some ⟨.play, 3⟩))).perform (.set 1 0 (some (.plain .thread2)))) 0 2 =
        some ⟨.play, 3⟩ := by decide +kernel
  have hmem := (hlisted 0 2 ⟨.play, 3⟩).mpr hcell
  refine ⟨_, rfl, hmem, honce 0 2 _ hcell, (hrow 0).trans (by decide +kernel),
    (hrow 2).trans (by decide +kernel), ?_, hlabels.trans (by decide +kernel), ?_⟩
  · rw [hfile]
    decide +kernel
  · rw [← Bool.not_eq_true, hempty]
    exact List.ne_nil_of_mem hmem

end Board

end Tileboard
