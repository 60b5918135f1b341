import Tileboard.Proofs.FileRoundTrip

/-!
Which board files pass the check, and which fault of the others is named.

A file may have any header, rows of any lengths and tiles with any rotations, so it may have several
faults at once.  Here they are described without the check, and the check is shown to agree.

1. **Sound files** — `Sound` says that the header tells the shape of the cells, that there is a
   board of that size, and that the tiles are valid.

2. **The first fault** — `FirstFault` says which of several faults counts: the number of rows before
   the length of the first uneven row, before the size, before the first tile in reading order that
   is not valid.  The two searches of the check find exactly these (`unevenRow?_eq_some_iff`,
   `invalidTile?_eq_some_iff`).

3. **Writing cell by cell** — the check puts the rows together in one go.  `fill` writes them into a
   board cell by cell, and each write may be refused.  The crux is `foldlM_write?_from`: from any
   cell on the writes go through, so none of a board's own cells is lost (`WellFormed.fill_rows`).

4. **Headline** — `check_settles`: the check accepts the sound files only, gives the board that has
   the cells of the file and is described by it, and refuses the others with their first fault.
-/

namespace Tileboard

namespace BoardFile

/-! ## What a file may be -/

/-- What the file says about a cell, if it has it. -/
def cell? (file : BoardFile) (row col : Nat) : Option Cell :=
  file.cells[row]?.bind (·[col]?)

/-- The header tells the shape of the cells. -/
structure Shaped (file : BoardFile) : Prop where
  length_cells : file.cells.length = file.rows
  length_row : ∀ row ∈ file.cells, row.length = file.cols

/-- There is a board of the size that the header tells. -/
structure Sized (file : BoardFile) : Prop where
  rows_pos : 0 < file.rows
  cols_pos : 0 < file.cols
  area_le : file.rows * file.cols ≤ 4096

/-- The file describes a board. -/
structure Sound (file : BoardFile) : Prop where
  shaped : file.Shaped
  sized : file.Sized
  valid : ∀ row col token, file.cell? row col = some (some token) → token.valid = true

/-- The fault of a file that counts, if it has several: a case assumes that the file has none of the
faults of the cases before it. -/
inductive FirstFault (file : BoardFile) : ContentError → Prop
  | rowCount (h : file.cells.length ≠ file.rows) :
      FirstFault file (.rowCount file.cells.length file.rows)
  | rowLength {r : Nat} {row : List Cell} (hlength : file.cells.length = file.rows)
      (hrow : file.cells[r]? = some row) (huneven : row.length ≠ file.cols)
      (hfirst : ∀ r' < r, ∀ row', file.cells[r']? = some row' → row'.length = file.cols) :
      FirstFault file (.rowLength r row.length file.cols)
  | empty (hshaped : file.Shaped) (h : file.rows = 0 ∨ file.cols = 0) :
      FirstFault file (.size .empty)
  | tooLarge (hshaped : file.Shaped) (h : 4096 < file.rows * file.cols) :
      FirstFault file (.size (.tooLarge file.rows file.cols))
  | param {r c : Nat} {token : Token} (hshaped : file.Shaped) (hsized : file.Sized)
      (hcell : file.cell? r c = some (some token)) (hinvalid : ¬ token.valid = true)
      (hfirst : ∀ r' c' token', r' < r ∨ r' = r ∧ c' < c →
        file.cell? r' c' = some (some token') → token'.valid = true) :
      FirstFault file (.param r c token)

variable {file : BoardFile}

/-! ## The cells in reading order -/

theorem mem_placed_iff {cells : List (List Cell)} {cell : Cell} {r c : Nat} :
    (cell, r, c) ∈ placed cells ↔ ∃ row, cells[r]? = some row ∧ row[c]? = some cell := by
  simp only [placed, List.mem_flatMap, List.mem_map, Prod.exists, List.mem_zipIdx_iff_getElem?,
    Prod.mk.injEq]
  constructor
  · rintro ⟨row, _, hrow, _, _, hcell, rfl, rfl, rfl⟩
    exact ⟨row, hrow, hcell⟩
  · rintro ⟨row, hrow, hcell⟩
    exact ⟨row, r, hrow, cell, c, hcell, rfl, rfl, rfl⟩

theorem mem_placed_iff_cell? {cell : Cell} {r c : Nat} :
    (cell, r, c) ∈ placed file.cells ↔ file.cell? r c = some cell := by
  rw [mem_placed_iff, cell?, Option.bind_eq_some_iff]

/-- Each cell stands in a row below those before it, or further right in their row. -/
theorem pairwise_placed (cells : List (List Cell)) :
    (placed cells).Pairwise fun a b => a.2.1 < b.2.1 ∨ a.2.1 = b.2.1 ∧ a.2.2 < b.2.2 := by
  rw [placed, List.pairwise_flatMap]
  constructor
  · rintro ⟨row, r⟩ -
    rw [List.pairwise_map]
    exact (Board.pairwise_zipIdx row).imp fun h => .inr ⟨rfl, h⟩
  · refine (Board.pairwise_zipIdx cells).imp fun hrows a ha b hb => ?_
    obtain ⟨_, _, rfl⟩ := List.mem_map.mp ha
    obtain ⟨_, _, rfl⟩ := List.mem_map.mp hb
    exact .inl hrows

/-! ## The searches of the check -/

/-- In a list that is strictly ordered, what stands in front of a member is what is smaller. -/
theorem exists_split_iff_of_pairwise {α : Type} {R : α → α → Prop} {xs : List α}
    (hasymm : ∀ x y, R x y → ¬ R y x) (hxs : xs.Pairwise R) {a : α} {p : α → Prop} :
    (∃ front rest, xs = front ++ a :: rest ∧ ∀ x ∈ front, p x) ↔
      a ∈ xs ∧ ∀ x ∈ xs, R x a → p x := by
  constructor
  · rintro ⟨front, rest, rfl, hfront⟩
    obtain ⟨-, hrest, -⟩ := List.pairwise_append.mp hxs
    refine ⟨List.mem_append_right front (List.mem_cons_self ..), fun x hx hlt => ?_⟩
    rcases List.mem_append.mp hx with hx | hx
    · exact hfront x hx
    · rcases List.mem_cons.mp hx with rfl | hx
      · exact absurd hlt (hasymm x x hlt)
      · exact absurd hlt (hasymm a x ((List.pairwise_cons.mp hrest).1 x hx))
  · rintro ⟨ha, hsmaller⟩
    obtain ⟨front, rest, rfl⟩ := List.append_of_mem ha
    obtain ⟨-, -, hfront⟩ := List.pairwise_append.mp hxs
    exact ⟨front, rest, rfl, fun x hx => hsmaller x (List.mem_append_left _ hx)
      (hfront x hx a (List.mem_cons_self ..))⟩

/-- The first uneven row is the one above which all rows are even. -/
theorem unevenRow?_eq_some_iff {row : List Cell} {r : Nat} :
    file.unevenRow? = some (row, r) ↔
      row.length ≠ file.cols ∧ file.cells[r]? = some row ∧
        ∀ r' < r, ∀ row', file.cells[r']? = some row' → row'.length = file.cols := by
  rw [unevenRow?, List.find?_eq_some_iff_append,
    exists_split_iff_of_pairwise (fun _ _ => Nat.lt_asymm) (Board.pairwise_zipIdx file.cells)]
  simp only [Prod.forall, List.mem_zipIdx_iff_getElem?, bne_iff_ne, Bool.not_eq_true',
    bne_eq_false_iff_eq]
  constructor
  · rintro ⟨huneven, hrow, hfirst⟩
    exact ⟨huneven, hrow, fun r' hlt row' hrow' => hfirst row' r' hrow' hlt⟩
  · rintro ⟨huneven, hrow, hfirst⟩
    exact ⟨huneven, hrow, fun row' r' hrow' hlt => hfirst r' hlt row' hrow'⟩

/-- What the second search finds at one cell. -/
def invalidAt? : Cell × Nat × Nat → Option Placement
  | (some token, row, col) => if token.valid then none else some ⟨row, col, token⟩
  | (none, _, _) => none

theorem invalidTile?_eq_findSome? (file : BoardFile) :
    file.invalidTile? = (placed file.cells).findSome? invalidAt? := by
  rw [invalidTile?]
  congr 1
  funext ⟨cell, row, col⟩
  cases cell <;> rfl

theorem invalidAt?_eq_none_iff {cell : Cell} {r c : Nat} :
    invalidAt? (cell, r, c) = none ↔ ∀ token, cell = some token → token.valid = true := by
  cases cell with
  | none => simp [invalidAt?]
  | some token => simp [invalidAt?]

theorem invalidAt?_eq_some_iff {cell : Cell} {r c r' c' : Nat} {token : Token} :
    invalidAt? (cell, r', c') = some ⟨r, c, token⟩ ↔
      ¬ token.valid = true ∧ (cell, r', c') = (some token, r, c) := by
  cases cell with
  | none => simp [invalidAt?]
  | some token' =>
    rw [invalidAt?]
    split
    · next hvalid =>
      refine ⟨by simp, ?_⟩
      rintro ⟨hinvalid, heq⟩
      injection heq with htoken
      injection htoken with htoken
      exact absurd (htoken ▸ hvalid) hinvalid
    · next hinvalid =>
      constructor
      · rintro ⟨⟩
        exact ⟨hinvalid, rfl⟩
      · rintro ⟨-, ⟨⟩⟩
        rfl

/-- The tile that is found is the one in front of which, in reading order, all tiles are valid. -/
theorem invalidTile?_eq_some_iff {r c : Nat} {token : Token} :
    file.invalidTile? = some ⟨r, c, token⟩ ↔
      ¬ token.valid = true ∧ file.cell? r c = some (some token) ∧
        ∀ r' c' token', r' < r ∨ r' = r ∧ c' < c →
          file.cell? r' c' = some (some token') → token'.valid = true := by
  have hasymm : ∀ a b : Cell × Nat × Nat, (a.2.1 < b.2.1 ∨ a.2.1 = b.2.1 ∧ a.2.2 < b.2.2) →
      ¬ (b.2.1 < a.2.1 ∨ b.2.1 = a.2.1 ∧ b.2.2 < a.2.2) := by
    intro a b
    omega
  have hsplit := exists_split_iff_of_pairwise hasymm (pairwise_placed file.cells)
    (a := (some token, r, c)) (p := fun x => invalidAt? x = none)
  -- in front of the tile stands what comes before it in reading order
  have hfront : (∀ x ∈ placed file.cells, (x.2.1 < r ∨ x.2.1 = r ∧ x.2.2 < c) →
      invalidAt? x = none) ↔ ∀ r' c' token', r' < r ∨ r' = r ∧ c' < c →
        file.cell? r' c' = some (some token') → token'.valid = true := by
    simp only [Prod.forall, mem_placed_iff_cell?, invalidAt?_eq_none_iff]
    constructor
    · exact fun h r' c' token' hlt hcell => h _ r' c' hcell hlt token' rfl
    · rintro h _ r' c' hcell hlt token' rfl
      exact h r' c' token' hlt hcell
  rw [← mem_placed_iff_cell?, ← hfront, ← hsplit, invalidTile?_eq_findSome?,
    List.findSome?_eq_some_iff]
  constructor
  · rintro ⟨front, ⟨cell, r', c'⟩, rest, hplaced, hfound, hnone⟩
    obtain ⟨hinvalid, heq⟩ := invalidAt?_eq_some_iff.mp hfound
    exact ⟨hinvalid, front, rest, heq ▸ hplaced, hnone⟩
  · rintro ⟨hinvalid, front, rest, hplaced, hnone⟩
    exact ⟨front, _, rest, hplaced, invalidAt?_eq_some_iff.mpr ⟨hinvalid, rfl⟩, hnone⟩

/-! ## The answers of the check -/

theorem unevenRow?_eq_none (h : file.Shaped) : file.unevenRow? = none :=
  unevenRow?_eq_none_iff.mpr h.length_row

theorem Sized.make_eq_ok (h : file.Sized) : ∃ size, Size.make file.rows file.cols = .ok size :=
  ⟨⟨file.rows, file.cols, h.rows_pos, h.cols_pos, h.area_le⟩, Size.make_eq_ok_iff.mpr ⟨rfl, rfl⟩⟩

/-- A file whose cells have the shape that the header tells is refused if there is no board of the
size. -/
theorem Shaped.check_of_size_error (h : file.Shaped) {error : SizeError}
    (hsize : Size.make file.rows file.cols = .error error) :
    file.check = .error (.size error) := by
  rw [check, if_neg (not_not.mpr h.length_cells), unevenRow?_eq_none h, hsize]

/-- Each fault is named by the check, if it is the first. -/
theorem FirstFault.check_eq {error : ContentError} (h : file.FirstFault error) :
    file.check = .error error := by
  cases h with
  | rowCount h => rw [check, if_pos h]
  | rowLength hlength hrow huneven hfirst =>
    rw [check, if_neg (not_not.mpr hlength), unevenRow?_eq_some_iff.mpr ⟨huneven, hrow, hfirst⟩]
  | empty hshaped h => exact hshaped.check_of_size_error (Size.make_eq_empty_iff.mpr h)
  | tooLarge hshaped h =>
    exact hshaped.check_of_size_error (Size.make_eq_tooLarge_iff.mpr ⟨⟨rfl, rfl⟩, h⟩)
  | param hshaped hsized hcell hinvalid hfirst =>
    obtain ⟨size, hsize⟩ := hsized.make_eq_ok
    rw [check, if_neg (not_not.mpr hshaped.length_cells), unevenRow?_eq_none hshaped, hsize,
      invalidTile?_eq_some_iff.mpr ⟨hinvalid, hcell, hfirst⟩]

/-- A file is sound or has a first fault. -/
theorem sound_or_firstFault (file : BoardFile) : file.Sound ∨ ∃ error, file.FirstFault error := by
  by_cases hlength : file.cells.length = file.rows
  · cases huneven : file.unevenRow? with
    | some found =>
      obtain ⟨hlen, hrow, hfirst⟩ := unevenRow?_eq_some_iff.mp huneven
      exact .inr ⟨_, .rowLength hlength hrow hlen hfirst⟩
    | none =>
      have hshaped : file.Shaped := ⟨hlength, unevenRow?_eq_none_iff.mp huneven⟩
      by_cases hempty : file.rows = 0 ∨ file.cols = 0
      · exact .inr ⟨_, .empty hshaped hempty⟩
      · by_cases hlarge : 4096 < file.rows * file.cols
        · exact .inr ⟨_, .tooLarge hshaped hlarge⟩
        · have hsized : file.Sized := ⟨by omega, by omega, by omega⟩
          cases htile : file.invalidTile? with
          | some found =>
            obtain ⟨hinvalid, hcell, hfirst⟩ := invalidTile?_eq_some_iff.mp htile
            exact .inr ⟨_, .param hshaped hsized hcell hinvalid hfirst⟩
          | none =>
            refine .inl ⟨hshaped, hsized, fun row col token hcell => ?_⟩
            obtain ⟨line, hline, htoken⟩ := Option.bind_eq_some_iff.mp hcell
            exact invalidTile?_eq_none_iff.mp htile line (List.mem_of_getElem? hline) token
              (List.mem_of_getElem? htoken)
  · exact .inr ⟨_, .rowCount hlength⟩

theorem Sound.valid_of_mem (h : file.Sound) :
    ∀ row ∈ file.cells, ∀ token, some token ∈ row → token.valid = true := by
  intro row hrow token htoken
  obtain ⟨r, hr⟩ := List.mem_iff_getElem?.mp hrow
  obtain ⟨c, hc⟩ := List.mem_iff_getElem?.mp htoken
  exact h.valid r c token (Option.bind_eq_some_iff.mpr ⟨row, hr, hc⟩)

/-- A sound file passes. -/
theorem Sound.check_eq (h : file.Sound) : ∃ size : Size,
    (size.rows = file.rows ∧ size.cols = file.cols) ∧
      file.check = .ok ⟨size, file.cells.flatten.toArray⟩ := by
  obtain ⟨size, hsize⟩ := h.sized.make_eq_ok
  refine ⟨size, Size.make_eq_ok_iff.mp hsize, ?_⟩
  rw [check, if_neg (not_not.mpr h.shaped.length_cells), unevenRow?_eq_none h.shaped, hsize,
    invalidTile?_eq_none_iff.mpr h.valid_of_mem]

/-- **The check refuses a file with its first fault.** -/
theorem check_eq_error_iff {error : ContentError} :
    file.check = .error error ↔ file.FirstFault error := by
  refine ⟨fun h => ?_, FirstFault.check_eq⟩
  rcases sound_or_firstFault file with hsound | ⟨error', hfault⟩
  · obtain ⟨_, _, hok⟩ := hsound.check_eq
    rw [h] at hok
    nomatch hok
  · rw [hfault.check_eq] at h
    injection h with h
    exact h ▸ hfault

/-- **The check accepts the sound files.** -/
theorem exists_check_eq_ok_iff : (∃ board, file.check = .ok board) ↔ file.Sound := by
  constructor
  · rintro ⟨board, h⟩
    rcases sound_or_firstFault file with hsound | ⟨error, hfault⟩
    · exact hsound
    · rw [hfault.check_eq] at h
      nomatch h
  · intro h
    obtain ⟨size, -, hok⟩ := h.check_eq
    exact ⟨_, hok⟩

/-! ## Writing cell by cell -/

/-- The board with a cell of a file written into it, if the write is not refused. -/
def write? (board : Board) (place : Cell × Nat × Nat) : Option Board :=
  board.set? place.2.1 place.2.2 place.1

/-- The board with the cells of a file written into it one after the other, if no write is refused.
-/
def fill (cells : List (List Cell)) (board : Board) : Option Board :=
  (placed cells).foldlM write? board

/-- The place that a cell has by its number, in rows of one length. -/
def byNumber (cols : Nat) (numbered : Cell × Nat) : Cell × Nat × Nat :=
  (numbered.1, numbered.2 / cols, numbered.2 % cols)

/-- In rows of one length the cells have their places by their numbers. -/
theorem placed_eq_map_byNumber {cells : List (List Cell)} {cols : Nat}
    (h : ∀ row ∈ cells, row.length = cols) :
    placed cells = cells.flatten.zipIdx.map (byNumber cols) := by
  -- from any row on, with the number of its first cell
  suffices hfrom : ∀ n, ((cells.zipIdx n).flatMap fun numbered =>
      numbered.1.zipIdx.map fun cell => (cell.1, numbered.2, cell.2)) =
      (cells.flatten.zipIdx (n * cols)).map (byNumber cols) by
    have hzero := hfrom 0
    rwa [Nat.zero_mul] at hzero
  induction cells with
  | nil => intro n; rfl
  | cons row rest ih =>
    intro n
    have hlength : row.length = cols := h row (List.mem_cons_self ..)
    rw [List.zipIdx_cons, List.flatMap_cons, List.flatten_cons, List.zipIdx_append,
      List.map_append, hlength, ← Nat.succ_mul, ih fun r hr => h r (List.mem_cons_of_mem row hr)]
    congr 1
    rw [List.zipIdx_eq_map_add (i := n * cols), List.map_map]
    refine List.map_congr_left fun ⟨cell, c⟩ hmem => ?_
    have hc : c < cols := by
      rw [← hlength]
      exact List.snd_lt_of_mem_zipIdx hmem
    show (cell, n, c) = (cell, (n * cols + c) / cols, (n * cols + c) % cols)
    rw [Nat.mul_comm n cols, Nat.mul_add_div (by omega), Nat.div_eq_of_lt hc, Nat.mul_add_mod,
      Nat.mod_eq_of_lt hc, Nat.add_zero]

/-- **From any cell on the writes go through**, if the cells in front hold what they should.
Induction on the cells that are still to be written: each is on the board, because there are as many
cells as places. -/
theorem foldlM_write?_from {size : Size} {later : List Cell} : ∀ {before : List Cell},
    before.length + later.length = size.area → (∀ cell ∈ later, Board.accepts cell = true) →
    ((later.zipIdx before.length).map (byNumber size.cols)).foldlM write?
        ⟨size, (before ++ List.replicate later.length none).toArray⟩ =
      some ⟨size, (before ++ later).toArray⟩ := by
  induction later with
  | nil => intro before _ _; rfl
  | cons cell later ih =>
    intro before hlength haccepts
    rw [List.length_cons] at hlength
    have hlt : before.length < size.rows * size.cols := by
      rw [Size.area] at hlength
      omega
    have hr : before.length / size.cols < size.rows :=
      Nat.div_lt_of_lt_mul (by rwa [Nat.mul_comm])
    have hc : before.length % size.cols < size.cols := Nat.mod_lt _ size.cols_pos
    have hindex : size.index (before.length / size.cols) (before.length % size.cols) =
        before.length := Nat.div_add_mod' ..
    have hwrite : write? ⟨size, (before ++ List.replicate (later.length + 1) none).toArray⟩
        (byNumber size.cols (cell, before.length)) =
        some ⟨size, ((before ++ [cell]) ++ List.replicate later.length none).toArray⟩ := by
      rw [write?, byNumber, Board.set?, if_pos (haccepts cell (List.mem_cons_self ..)),
        Board.index?_of_lt hr hc, Option.map_some]
      simp [hindex, List.replicate_succ]
    have hrest := @ih (before ++ [cell])
      (by rw [List.length_append, List.length_singleton]; omega)
      fun other hother => haccepts other (List.mem_cons_of_mem cell hother)
    rw [List.append_cons before cell later, ← hrest, List.zipIdx_cons, List.map_cons,
      List.foldlM_cons, List.length_append, List.length_singleton, List.length_cons, hwrite]
    rfl

end BoardFile

namespace Board

variable {board : Board}

/-! ## The board of a file -/

/-- The cells of a well-formed board are those of its description. -/
theorem WellFormed.get_eq (h : board.WellFormed) (row col : Nat) :
    board.get row col = (board.file.cell? row col).join := by
  by_cases hon : row < board.size.rows ∧ col < board.size.cols
  · have hrow : board.file.cells[row]? =
        some ((board.cells.toList.drop (row * board.size.cols)).take board.size.cols) := by
      show board.rows[row]? = _
      rw [rows_eq, List.getElem?_map, List.getElem?_range hon.1, Option.map_some]
    rw [get_of_lt hon.1 hon.2, BoardFile.cell?, hrow, Option.bind_some,
      List.getElem?_take_of_lt hon.2, List.getElem?_drop, Array.getElem?_toList, Size.index]
  · have hnone : board.file.cell? row col = none := by
      rw [BoardFile.cell?, Option.bind_eq_none_iff]
      intro line hline
      have hrow : row < board.rows.length := (List.getElem?_eq_some_iff.mp hline).1
      have hlength := h.length_of_mem_rows line (List.mem_of_getElem? hline)
      rw [rows, List.length_map, List.length_range] at hrow
      exact List.getElem?_eq_none (by omega)
    rw [get_of_not_lt hon, hnone]
    rfl

/-- Rows of one length are cut out of the cells that they make up. -/
theorem map_take_drop_flatten {α : Type} {width : Nat} {rows : List (List α)}
    (h : ∀ row ∈ rows, row.length = width) :
    ((List.range rows.length).map fun i => (rows.flatten.drop (i * width)).take width) = rows := by
  induction rows with
  | nil => rfl
  | cons row rest ih =>
    have hlength := h row (List.mem_cons_self ..)
    have hrest := ih fun r hr => h r (List.mem_cons_of_mem row hr)
    rw [List.length_cons, List.range_succ_eq_map, List.map_cons, List.map_map, List.flatten_cons]
    congr 1
    · rw [Nat.zero_mul, List.drop_zero, ← hlength, List.take_left]
    · nth_rewrite 3 [← hrest]
      refine List.map_congr_left fun i _ => ?_
      show ((row ++ rest.flatten).drop ((i + 1) * width)).take width = _
      rw [Nat.succ_mul, Nat.add_comm, ← List.drop_drop, ← hlength, List.drop_left]

/-- **The board that a file passes as is the one that the file is the description of.** -/
theorem check_eq_ok_iff {file : BoardFile} :
    file.check = .ok board ↔ board.WellFormed ∧ board.file = file := by
  constructor
  · intro h
    obtain ⟨hlength, heven, ⟨hrows, hcols⟩, -, hcells⟩ := check_eq_ok h
    refine ⟨wellFormed_of_check h, ?_⟩
    have hfile : board.rows = file.cells := by
      rw [rows_eq, hcells, hrows, hcols, ← hlength]
      exact map_take_drop_flatten heven
    rw [Board.file, hrows, hcols, hfile]
  · rintro ⟨hwf, rfl⟩
    exact hwf.check_file

/-- **No write is refused**: the rows of a well-formed board, written cell by cell into the empty
board, give the board. -/
theorem WellFormed.fill_rows (h : board.WellFormed) :
    BoardFile.fill board.rows (empty board.size) = some board := by
  have haccepts : ∀ cell ∈ board.cells.toList, accepts cell = true := by
    intro cell hcell
    cases cell with
    | none => rfl
    | some token => exact h.valid_of_mem token (Array.mem_def.mpr hcell)
  have hlength : ([] : List Cell).length + board.cells.toList.length = board.size.area := by
    rw [List.length_nil, Nat.zero_add, h.length_cells, Size.area]
  have hfill := BoardFile.foldlM_write?_from hlength haccepts
  rw [BoardFile.fill, BoardFile.placed_eq_map_byNumber h.length_of_mem_rows,
    h.flatten_rows]
  rw [List.nil_append, List.nil_append, h.length_cells] at hfill
  have hempty : empty board.size =
      ⟨board.size, (List.replicate (board.size.rows * board.size.cols) none).toArray⟩ := by
    rw [empty, Size.area, List.toArray_replicate]
  rw [hempty]
  exact hfill

end Board

namespace BoardFile

/-- **What the check of a file settles.**  A board is given for the sound files only; it has the
cells of the file, is described by the file, and comes out of the empty board by writing them one by
one.  The description of a board that can be reached gives that board.  Every other file is refused
with its first fault. -/
theorem check_settles (file : BoardFile) :
    ((∃ board, file.check = .ok board) ↔ file.Sound) ∧
      (∀ board, file.check = .ok board →
        (∀ row col, board.get row col = (file.cell? row col).join) ∧ board.file = file ∧
          fill file.cells (Board.empty board.size) = some board) ∧
      (∀ board, Board.Reachable board → board.file.check = .ok board) ∧
      ∀ error, file.check = .error error ↔ file.FirstFault error := by
  refine ⟨exists_check_eq_ok_iff, fun board h => ?_, fun _ h => h.wellFormed.check_file,
    fun _ => check_eq_error_iff⟩
  obtain ⟨hwf, rfl⟩ := Board.check_eq_ok_iff.mp h
  exact ⟨hwf.get_eq, rfl, hwf.fill_rows⟩

/-- A sound file with two cells, and a file whose second row is too short and whose first tile is
not valid, where the row is the fault that counts. -/
theorem check_settles_two_files :
    (∃ board : Board, check ⟨1, 2, [[none, some ⟨.play, 3⟩]]⟩ = .ok board ∧
      board.get 0 1 = some ⟨.play, 3⟩ ∧ board.file = ⟨1, 2, [[none, some ⟨.play, 3⟩]]⟩) ∧
    FirstFault ⟨2, 2, [[some ⟨.play, 99⟩, none], [none]]⟩ (.rowLength 1 1 2) := by
  obtain ⟨-, hboard, -⟩ := check_settles ⟨1, 2, [[none, some ⟨.play, 3⟩]]⟩
  obtain ⟨-, -, -, hfault⟩ := check_settles ⟨2, 2, [[some ⟨.play, 99⟩, none], [none]]⟩
  have hcheck : check ⟨1, 2, [[none, some ⟨.play, 3⟩]]⟩ =
      .ok ⟨⟨1, 2, by decide, by decide, by decide⟩, #[none, some ⟨.play, 3⟩]⟩ := by decide
  obtain ⟨hget, hfile, -⟩ := hboard _ hcheck
  exact ⟨⟨_, hcheck, hget 0 1, hfile⟩, (hfault _).mp (by decide)⟩

end BoardFile

end Tileboard
