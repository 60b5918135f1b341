import Tileboard.Proofs.FileReading
import Tileboard.Proofs.Reachable

/-!
Boards survive their files.

1. **Rows** — the rows of a board are its cells, cut after every row's length (`rows_eq`), so they
   make up the cells again (`flatten_rows`) and each is as long as the header says.

2. **The check** — it passes exactly the rows and tiles that it should (`unevenRow?_eq_none_iff`,
   `invalidTile?_eq_none_iff`), and so the description of a well-formed board, of which it makes that
   board again (`check_file`).

3. **Loading** — every text that spells the description of a well-formed board is loaded as that board
   (`load_of_spells`).  The text that a board is saved as is one of them (`load_fileText`).
-/

namespace Tileboard

namespace Size

theorem rows_le (size : Size) : size.rows ≤ 4096 :=
  Nat.le_trans (Nat.le_mul_of_pos_right size.rows size.cols_pos) size.area_le

theorem cols_le (size : Size) : size.cols ≤ 4096 :=
  Nat.le_trans (Nat.le_mul_of_pos_left size.cols size.rows_pos) size.area_le

end Size

namespace BoardFile

/-! ## The check -/

theorem unevenRow?_eq_none_iff {file : BoardFile} :
    file.unevenRow? = none ↔ ∀ row ∈ file.cells, row.length = file.cols := by
  constructor
  · exact Board.length_of_unevenRow?_eq_none
  · intro h
    refine List.find?_eq_none.mpr fun ⟨row, r⟩ hmem => ?_
    have hlength := h row (List.fst_mem_of_mem_zipIdx hmem)
    simpa using hlength

theorem invalidTile?_eq_none_iff {file : BoardFile} :
    file.invalidTile? = none ↔
      ∀ row ∈ file.cells, ∀ token, some token ∈ row → token.valid = true := by
  constructor
  · exact Board.valid_of_invalidTile?_eq_none
  · intro h
    refine List.findSome?_eq_none_iff.mpr fun _ hplaced => ?_
    obtain ⟨⟨row, r⟩, hrow, hcells⟩ := List.mem_flatMap.mp hplaced
    obtain ⟨⟨cell, c⟩, hcell, rfl⟩ := List.mem_map.mp hcells
    cases cell with
    | none => rfl
    | some token =>
      exact if_pos (h row (List.fst_mem_of_mem_zipIdx hrow) token
        (List.fst_mem_of_mem_zipIdx hcell))

end BoardFile

namespace Board

variable {board : Board}

/-! ## The rows of a board -/

theorem rows_eq (board : Board) : board.rows =
    (List.range board.size.rows).map fun row =>
      (board.cells.toList.drop (row * board.size.cols)).take board.size.cols := by
  refine List.map_congr_left fun row hrow => ?_
  rw [row?, index?_of_lt (List.mem_range.mp hrow) board.size.cols_pos]
  simp [Size.index, List.extract_eq_take_drop]

/-- Pieces of one length, cut off one after the other, make up the list they are cut from. -/
theorem flatten_map_take_drop {α : Type} (xs : List α) (width n : Nat) :
    ((List.range n).map fun i => (xs.drop (i * width)).take width).flatten = xs.take (n * width) := by
  induction n with
  | zero => simp
  | succ n ih =>
    rw [List.range_succ, List.map_append, List.flatten_append, ih, Nat.succ_mul, List.take_add]
    simp

theorem WellFormed.length_cells (h : board.WellFormed) :
    board.cells.toList.length = board.size.rows * board.size.cols := by
  rw [Array.length_toList, h.size_cells, Size.area]

theorem WellFormed.flatten_rows (h : board.WellFormed) :
    board.rows.flatten = board.cells.toList := by
  rw [rows_eq, flatten_map_take_drop, ← h.length_cells, List.take_length]

theorem WellFormed.length_of_mem_rows (h : board.WellFormed) :
    ∀ row ∈ board.rows, row.length = board.size.cols := by
  intro row hrow
  rw [rows_eq] at hrow
  obtain ⟨r, hr, rfl⟩ := List.mem_map.mp hrow
  have hend : (r + 1) * board.size.cols ≤ board.size.rows * board.size.cols :=
    Nat.mul_le_mul_right _ (List.mem_range.mp hr)
  rw [List.length_take, List.length_drop, h.length_cells]
  rw [Nat.succ_mul] at hend
  omega

theorem WellFormed.valid_of_mem_rows (h : board.WellFormed) :
    ∀ row ∈ board.rows, ∀ token, some token ∈ row → token.valid = true := by
  intro row hrow token htoken
  have hmem : some token ∈ board.rows.flatten := List.mem_flatten.mpr ⟨row, hrow, htoken⟩
  rw [h.flatten_rows] at hmem
  exact h.valid_of_mem token (Array.mem_def.mpr hmem)

/-- **The description of a well-formed board passes the check**, which gives the board back. -/
theorem WellFormed.check_file (h : board.WellFormed) : board.file.check = .ok board := by
  have hlength : board.file.cells.length = board.file.rows := by simp [file, rows]
  have heven : board.file.unevenRow? = none :=
    BoardFile.unevenRow?_eq_none_iff.mpr h.length_of_mem_rows
  have hvalid : board.file.invalidTile? = none :=
    BoardFile.invalidTile?_eq_none_iff.mpr h.valid_of_mem_rows
  have hsize : Size.make board.file.rows board.file.cols = .ok board.size :=
    Size.make_rows_cols board.size
  have hcells : board.file.cells.flatten.toArray = board.cells := by
    show board.rows.flatten.toArray = board.cells
    rw [h.flatten_rows]
  rw [BoardFile.check, if_neg (not_not.mpr hlength)]
  simp only [heven, hsize, hvalid, hcells]

/-! ## Loading -/

/-- The numbers of a well-formed board are small: at most 4096 rows and columns, and rotations up to
seven. -/
theorem WellFormed.fits_file (h : board.WellFormed) : board.file.Fits where
  rows_lt := Nat.lt_of_le_of_lt board.size.rows_le (by decide)
  cols_lt := Nat.lt_of_le_of_lt board.size.cols_le (by decide)
  cells_fit := by
    rintro row hrow _ hcell token rfl
    have hvalid := h.valid_of_mem_rows row hrow token hcell
    have hmax : token.kind.maxParam ≤ 7 := by
      unfold Kind.maxParam
      split <;> decide
    have hparam : token.param ≤ token.kind.maxParam := by simpa [Token.valid] using hvalid
    exact Nat.lt_of_le_of_lt (Nat.le_trans hparam hmax) (by decide)

/-- **Every spelling of a well-formed board is loaded as that board.** -/
theorem load_of_spells (h : board.WellFormed) {text : String}
    (htext : board.file.Spells text.toList) : load text = .ok board := by
  rw [load, BoardFile.read_of_spells h.fits_file htext]
  simp only [h.check_file]

/-- **A board that can be reached is loaded from the text that it is saved as.** -/
theorem load_fileText (h : Reachable board) : load board.fileText = .ok board := by
  have htext : board.file.Spells board.fileText.toList := by
    rw [fileText, BoardFile.print, String.toList_ofList]
    exact BoardFile.spells_printChars board.file
  exact load_of_spells h.wellFormed htext

/-- A board with one row, an empty cell and a tile, and its text. -/
theorem load_fileText_two_cells :
    ∃ board, board = (empty ⟨1, 2, by decide, by decide, by decide⟩).set 0 1 (some ⟨.play, 3⟩) ∧
      board.fileText = "\n".intercalate ["\x7b", "  \"rows\": 1,", "  \"cols\": 2,",
        "  \"cells\": [", "    [", "      null,", "      \x7b", "        \"kind\": \"play\",",
        "        \"param\": 3", "      \x7d", "    ]", "  ]", "\x7d"] ∧
      load board.fileText = .ok board := by
  have hreach := (Reachable.empty ⟨1, 2, by decide, by decide, by decide⟩).perform
    (.set 0 1 (some ⟨.play, 3⟩))
  exact ⟨_, rfl, by decide +kernel, load_fileText hreach⟩

end Board

end Tileboard
