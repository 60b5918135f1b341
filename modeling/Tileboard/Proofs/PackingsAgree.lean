import Tileboard.Encoding
import Tileboard.Proofs.BlockRows

/-!
Where the two packings agree.

Dense packing gives the line behind `n` others the cell with the number `n`.  Thread rows do the same
until a marker has to skip what is left of a row.

1. **One line** — behind `n` lines that were packed densely, both packings give the next line the
   same cell exactly if it is no marker or `n` lines fill whole rows (`settle_eq_dense_iff`).  Then
   the marker's row is full, and starting a row and going on to the next one is the same.

2. **Below the board** — behind as many lines as there are cells neither packing finds a cell
   (`ofLinesFrom_of_area_le`), so it does not matter whether the lines from there on are markers.

3. **All lines** — so the layouts agree exactly if every marker among the lines that dense packing
   has cells for is the first of a row there (`ofLines_eq_dense_iff`).  The first one that is not
   gets another cell with thread rows, or none.

4. **The demonstration** — its only marker comes first, so it makes no difference that it is packed
   densely without a choice (`demo_eq_ofTokens`).
-/

namespace Tileboard

/-- Lines that fill whole rows take no other row. -/
theorem Size.rowsFor_of_dvd (size : Size) {n : Nat} (h : size.cols ∣ n) :
    size.rowsFor n = n / size.cols := by
  obtain ⟨k, rfl⟩ := h
  have hpos := size.cols_pos
  rw [rowsFor, Nat.mul_div_cancel_left k hpos]
  exact smul_ceilDiv hpos k

namespace Cursor

variable {size : Size}

/-! ## One line -/

/-- **Both packings give a line the same cell** exactly if it is no marker or comes behind whole
rows. -/
theorem settle_eq_dense_iff (size : Size) (line : Line) (row n : Nat) :
    (behind size row n).settle size .threadRows line =
        (behind size row n).settle size .dense line ↔
      (line.isMarker = true → size.cols ∣ n) := by
  have hdense : (behind size row n).settle size .dense line =
      ⟨row + n / size.cols, n % size.cols⟩ := settle_behind_of_stays rfl
  rw [hdense]
  cases hmarker : line.isMarker with
  | false =>
    rw [settle_behind_of_stays (show line.opens .threadRows = false from hmarker)]
    exact iff_of_true rfl (fun h => nomatch h)
  | true =>
    rw [settle_behind_of_opens (show line.opens .threadRows = true from hmarker)]
    show Cursor.mk (row + size.rowsFor n) 0 = ⟨row + n / size.cols, n % size.cols⟩ ↔ _
    rw [Cursor.mk.injEq]
    constructor
    · rintro ⟨-, hcol⟩ -
      exact Nat.dvd_of_mod_eq_zero hcol.symm
    · intro h
      have hdvd : size.cols ∣ n := h rfl
      exact ⟨by rw [size.rowsFor_of_dvd hdvd], (Nat.mod_eq_zero_of_dvd hdvd).symm⟩

/-- A line behind fewer lines than there are cells is densely given a cell on the board. -/
theorem row_settle_dense_lt {n : Nat} (line : Line) (h : n < size.area) :
    ((behind size 0 n).settle size .dense line).row < size.rows := by
  have hindex : ((behind size 0 n).settle size .dense line).index size < size.area := by
    rw [index_settle_of_stays (breaksRow_dense line _) (col_behind_le size 0 n), index_behind]
    omega
  exact Size.row_lt_of_index_lt hindex

end Cursor

namespace Layout

open Cursor

variable {size : Size} {packing : Packing} {line : Line} {rest : List Line}

/-! ## Below the board -/

/-- **Where the cells have run out**, no packing gives another one. -/
theorem ofLinesFrom_of_area_le {c : Cursor} (hc : c.col ≤ size.cols)
    (h : size.area ≤ c.index size) :
    ofLinesFrom size packing c (line :: rest) = ⟨[], none⟩ := by
  refine ofLinesFrom_cons_of_ge ?_
  by_contra hrow
  -- a cell on the board has a number below the number of cells, and this one is not before `c`
  have hlt : (c.settle size packing line).index size < size.area :=
    Size.index_lt_area (Nat.not_le.mp hrow) (settle_col_lt size packing line c)
  have hle : c.index size ≤ (c.settle size packing line).index size := index_le_index_settle hc
  omega

/-! ## All lines -/

/-- With the same cell for the first line, the layouts agree if they do so behind it. -/
theorem ofLinesFrom_cons_eq_iff {c : Cursor} (hr : (c.settle size .dense line).row < size.rows)
    (h : c.settle size packing line = c.settle size .dense line) :
    ofLinesFrom size packing c (line :: rest) = ofLinesFrom size .dense c (line :: rest) ↔
      ofLinesFrom size packing (c.settle size .dense line).step rest =
        ofLinesFrom size .dense (c.settle size .dense line).step rest := by
  rw [ofLinesFrom_cons_of_lt (h ▸ hr), ofLinesFrom_cons_of_lt hr, h]
  dsimp only
  generalize ofLinesFrom size packing (c.settle size .dense line).step rest = after
  generalize ofLinesFrom size .dense (c.settle size .dense line).step rest = after'
  cases after
  cases after'
  simp only [Layout.mk.injEq, List.cons.injEq, true_and]

/-- With another cell for the first line, they do not. -/
theorem ofLinesFrom_ne_of_settle_ne {c : Cursor}
    (hr : (c.settle size .dense line).row < size.rows)
    (h : c.settle size packing line ≠ c.settle size .dense line) :
    ofLinesFrom size packing c (line :: rest) ≠ ofLinesFrom size .dense c (line :: rest) := by
  rw [ofLinesFrom_cons_of_lt hr]
  rcases Nat.lt_or_ge (c.settle size packing line).row size.rows with hr' | hr'
  · rw [ofLinesFrom_cons_of_lt hr']
    intro he
    injection he with hplaced
    injection hplaced with hfirst
    injection hfirst with hrow hcol
    exact h (Cursor.mk.injEq .. ▸ ⟨hrow, hcol⟩)
  · -- the packing has no cell for the line
    rw [ofLinesFrom_cons_of_ge hr']
    intro he
    injection he with hplaced
    nomatch hplaced

/-- From behind `n` lines that were packed densely, the packings agree exactly if the further markers
that are on the board densely are each the first of a row.  Induction on the lines: as long as the
packings have agreed, the cursor is where dense packing has it. -/
theorem ofLinesFrom_eq_dense_iff (size : Size) : ∀ (lines : List Line) (n : Nat),
    ofLinesFrom size .threadRows (behind size 0 n) lines =
        ofLinesFrom size .dense (behind size 0 n) lines ↔
      ∀ p ∈ lines.zipIdx n, p.1.isMarker = true → p.2 < size.area → size.cols ∣ p.2 := by
  intro lines
  induction lines with
  | nil => intro n; exact iff_of_true rfl (fun p hp => absurd hp List.not_mem_nil)
  | cons line rest ih =>
    intro n
    rw [List.zipIdx_cons, List.forall_mem_cons]
    rcases Nat.lt_or_ge n size.area with hn | hn
    · have hr := row_settle_dense_lt line hn
      by_cases hcell : (behind size 0 n).settle size .threadRows line =
          (behind size 0 n).settle size .dense line
      · -- the same cell, and both walks go on behind it
        have hstep : ((behind size 0 n).settle size .dense line).step = behind size 0 (n + 1) := by
          rw [settle_behind_of_stays rfl]
          rfl
        have hdvd := (settle_eq_dense_iff size line 0 n).mp hcell
        rw [ofLinesFrom_cons_eq_iff hr hcell, hstep, ih (n + 1)]
        exact ⟨fun h => ⟨fun hmarker _ => hdvd hmarker, h⟩, fun h => h.2⟩
      · -- a marker in mid-row
        refine iff_of_false (ofLinesFrom_ne_of_settle_ne hr hcell) fun h => hcell ?_
        exact (settle_eq_dense_iff size line 0 n).mpr fun hmarker => h.1 hmarker hn
    · -- no cell is left
      have hindex : size.area ≤ (behind size 0 n).index size := by
        rw [index_behind]
        omega
      have hcol := col_behind_le size 0 n
      rw [ofLinesFrom_of_area_le hcol hindex, ofLinesFrom_of_area_le hcol hindex]
      refine iff_of_true rfl ⟨fun _ hlt => absurd hlt (Nat.not_lt.mpr hn), fun p hp _ hlt => ?_⟩
      have hle : n + 1 ≤ p.2 := List.le_snd_of_mem_zipIdx hp
      omega

/-- **The packings agree** exactly if every marker that is on the board densely is the first of a row
there. -/
theorem ofLines_eq_dense_iff (size : Size) (lines : List Line) :
    ofLines size .threadRows lines = ofLines size .dense lines ↔
      ∀ p ∈ lines.zipIdx, p.1.isMarker = true → p.2 < size.area → size.cols ∣ p.2 :=
  ofLinesFrom_eq_dense_iff size lines 0

end Layout

namespace Board

variable {size : Size} {lines : List Line}

/-! ## The demonstration -/

/-- Where the packings agree, the choice between them does not count. -/
theorem ofLines_eq_pack_dense
    (h : Layout.ofLines size .threadRows lines = Layout.ofLines size .dense lines) :
    ofLines lines size = pack size .dense lines := by
  rw [ofLines]
  cases Layout.choosePacking size lines with
  | dense => rfl
  | threadRows => rw [pack, pack, h]

/-- **The demonstration is the board of its tiles**: its one marker is its first line. -/
theorem demo_eq_ofTokens (size : Size) : demo size = ofTokens demoProgram size := by
  have hfirst : ∀ p ∈ (Script.ofTokens demoProgram).zipIdx, p.1.isMarker = true → p.2 = 0 := by
    decide
  have hagree : Layout.ofLines size .threadRows (Script.ofTokens demoProgram) =
      Layout.ofLines size .dense (Script.ofTokens demoProgram) := by
    refine (Layout.ofLines_eq_dense_iff size _).mpr fun p hp hmarker _ => ?_
    rw [hfirst p hp hmarker]
    exact Nat.dvd_zero _
  rw [ofTokens, ofLines_eq_pack_dense hagree, demo]

end Board

namespace Layout

/-! ## Result -/

/-- **Exactly when the packings agree.**  Thread rows and dense packing give the same cells in the
same order, and end with the same number of rows or both below the board, if and only if every marker
among the lines that the board has cells for comes behind so many lines that they fill whole rows.
Markers further down make no difference.

In particular the demonstration, which is packed densely in any case, is on every size what its tiles
become when the packing is chosen for them, a board or the same error. -/
theorem packings_agree :
    (∀ size lines, ofLines size .threadRows lines = ofLines size .dense lines ↔
      ∀ p ∈ lines.zipIdx, p.1.isMarker = true → p.2 < size.area → size.cols ∣ p.2) ∧
    (∀ size, Board.demo size = Board.ofTokens Board.demoProgram size) :=
  ⟨ofLines_eq_dense_iff, Board.demo_eq_ofTokens⟩

/-- On a board of two rows and two columns, a marker behind a full row and one below the board make no
difference, and a marker in mid-row does. -/
theorem packings_agree_two_rows :
    ofLines ⟨2, 2, by decide, by decide, by decide⟩ .threadRows (Script.ofTokens
        [.plain .play, ⟨.play, 1⟩, .plain .thread2, ⟨.play, 2⟩, ⟨.play, 3⟩, .plain .thread1]) =
      ofLines ⟨2, 2, by decide, by decide, by decide⟩ .dense (Script.ofTokens
        [.plain .play, ⟨.play, 1⟩, .plain .thread2, ⟨.play, 2⟩, ⟨.play, 3⟩, .plain .thread1]) ∧
    ofLines ⟨2, 2, by decide, by decide, by decide⟩ .threadRows (Script.ofTokens
        [.plain .play, .plain .thread2]) ≠
      ofLines ⟨2, 2, by decide, by decide, by decide⟩ .dense (Script.ofTokens
        [.plain .play, .plain .thread2]) :=
  ⟨(packings_agree.1 _ _).mpr (by decide),
    fun h => absurd ((packings_agree.1 _ _).mp h) (by decide)⟩

end Layout

end Tileboard
