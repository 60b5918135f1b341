import Tileboard.Proofs.Packing

/-!
Thread rows as the earliest of all arrangements with the markers at row starts.

1. **Specification** — an arrangement gives each line a cell, each strictly after the one before it
   in reading order, and every marker the first cell of some row (`Arranged`).  Nothing is said about
   how the cells are found, or about the cells that stay empty.

2. **One line** — the cell on which the cursor settles is no later than any cell that suits the line
   and is not behind the cursor (`index_settle_le_of_suits`).  Only a marker in mid-row needs an
   argument: a first cell of a row that is not behind the cursor lies in a later row.

3. **The crux (`earliest_from`)** — the walk stays ahead of every arrangement: as long as it does, the
   arrangement's next cell is not behind the cursor, so the walk finds a cell wherever the
   arrangement has one, and no later.

4. **Completeness of the choice** — so thread rows are chosen exactly if there is a marker and some
   arrangement exists (`usesThreadRows_complete`).
-/

namespace Tileboard

/-- The cell holds the line's tile, and is the first of its row if the line is a marker. -/
def Suits (line : Line) (p : Placement) : Prop :=
  p.token = line.token ∧ (line.isMarker = true → p.col = 0)

/-- The cells are an arrangement of the lines from the cell number `start` on. -/
structure Arranged (size : Size) (start : Nat) (lines : List Line) (placed : List Placement) :
    Prop where
  orderly : Orderly size start placed
  suits : List.Forall₂ Suits lines placed

/-- Each tile of the first list stands at or before the cell of its partner in the second. -/
def NoLater (size : Size) : List Placement → List Placement → Prop :=
  List.Forall₂ fun p q => p.index size ≤ q.index size

/-! ## One line -/

namespace Cursor

variable {size : Size} {line : Line} {c : Cursor}

/-- With thread rows, a marker is given the first cell of a row. -/
theorem settle_col_of_isMarker (h : line.isMarker = true) :
    (c.settle size .threadRows line).col = 0 := by
  by_cases hcol : c.col = 0
  · have hpos := size.cols_pos
    rw [settle_of_stays (breaksRow_of_col_eq_zero hcol), if_neg (by omega), hcol]
  · have hbreaks : c.breaksRow .threadRows line = true := by simp [breaksRow, h, hcol]
    rw [settle_of_breaks hbreaks]
    rfl

/-- **The cursor settles on the earliest cell that suits the line.** -/
theorem index_settle_le_of_suits {p : Placement} (hc : c.col ≤ size.cols) (hp : Suits line p)
    (hle : c.index size ≤ p.index size) :
    (c.settle size .threadRows line).index size ≤ p.index size := by
  rcases Bool.eq_false_or_eq_true (c.breaksRow .threadRows line) with h | h
  · -- a marker in mid-row: its cell is the first of a row, and the cursor has left that of its own
    simp only [breaksRow, Bool.and_eq_true, bne_iff_ne] at h
    have hcol : p.col = 0 := hp.2 h.1.2
    have hrow : c.row < p.row := by
      by_contra hn
      have hmul : p.row * size.cols ≤ c.row * size.cols :=
        Nat.mul_le_mul_right size.cols (Nat.not_lt.mp hn)
      simp only [index, Placement.index, Size.index, hcol] at hle
      omega
    rw [settle_of_breaks (by simp [breaksRow, h])]
    show size.index (c.row + 1) 0 ≤ size.index p.row p.col
    rw [hcol]
    exact Nat.add_le_add_right (Nat.mul_le_mul_right size.cols hrow) 0
  · rw [index_settle_of_stays h hc]
    exact hle

end Cursor

namespace Layout

open Cursor

variable {size : Size} {lines : List Line} {placed : List Placement}

/-! ## The walk against an arrangement -/

theorem suits_of_isSome_from (size : Size) : ∀ (lines : List Line) (c : Cursor),
    (ofLinesFrom size .threadRows c lines).rows?.isSome = true →
      List.Forall₂ Suits lines (ofLinesFrom size .threadRows c lines).placed := by
  intro lines
  induction lines with
  | nil => intro c _; exact List.Forall₂.nil
  | cons line rest ih =>
    intro c h
    rcases Nat.lt_or_ge (c.settle size .threadRows line).row size.rows with hr | hr
    · rw [ofLinesFrom_cons_of_lt hr] at h ⊢
      exact List.Forall₂.cons ⟨rfl, settle_col_of_isMarker⟩ (ih _ h)
    · rw [ofLinesFrom_cons_of_ge hr] at h
      exact absurd h (by decide)

/-- Thread rows that reach the end of the lines are an arrangement of them. -/
theorem arranged_of_isSome (h : (ofLines size .threadRows lines).rows?.isSome = true) :
    Arranged size 0 lines (ofLines size .threadRows lines).placed :=
  ⟨orderly_ofLines size .threadRows lines, suits_of_isSome_from size lines Cursor.start h⟩

/-- The walk reaches the end wherever an arrangement does, and gives no line a later cell.
Induction on the lines; what is carried along is that the arrangement has no cell behind the
cursor. -/
theorem earliest_from (size : Size) : ∀ (lines : List Line) (c : Cursor) (placed : List Placement),
    c.col ≤ size.cols → Arranged size (c.index size) lines placed →
      (ofLinesFrom size .threadRows c lines).rows?.isSome = true ∧
        NoLater size (ofLinesFrom size .threadRows c lines).placed placed := by
  intro lines
  induction lines with
  | nil =>
    intro c placed _ h
    cases h.suits
    exact ⟨rfl, List.Forall₂.nil⟩
  | cons line rest ih =>
    intro c placed hc h
    obtain ⟨horderly, hsuits⟩ := h
    cases hsuits with
    | @cons _ p _ ps hp hps =>
      have hle : (c.settle size .threadRows line).index size ≤ p.index size :=
        index_settle_le_of_suits hc hp (horderly.from_start p (List.mem_cons_self ..))
      -- the arrangement's cell is on the board, so the walk's is
      obtain ⟨hprow, hpcol⟩ := horderly.on p (List.mem_cons_self ..)
      have hlt : p.index size < size.area := Size.index_lt_area hprow hpcol
      have hr : (c.settle size .threadRows line).row < size.rows :=
        Size.row_lt_of_index_lt (Nat.lt_of_le_of_lt hle hlt)
      have hrest : Arranged size ((c.settle size .threadRows line).step.index size) rest ps := by
        rw [index_step]
        exact ⟨horderly.tail.mono (Nat.add_le_add_right hle 1), hps⟩
      obtain ⟨hsome, hlater⟩ := ih _ ps (step_settle_col_le size .threadRows line c) hrest
      rw [ofLinesFrom_cons_of_lt hr]
      exact ⟨hsome, List.Forall₂.cons hle hlater⟩

/-- **Thread rows are the earliest arrangement**, if there is any. -/
theorem earliest (h : Arranged size 0 lines placed) :
    (ofLines size .threadRows lines).rows?.isSome = true ∧
      NoLater size (ofLines size .threadRows lines).placed placed := by
  refine earliest_from size lines Cursor.start placed (Nat.zero_le _) ?_
  rwa [index_start]

/-! ## Completeness of the choice -/

theorem usesThreadRows_iff : usesThreadRows size lines = true ↔
    (∃ line ∈ lines, line.isMarker = true) ∧ ∃ placed, Arranged size 0 lines placed := by
  rw [usesThreadRows_eq_true_iff, List.any_eq_true]
  refine and_congr_right fun _ => ?_
  exact ⟨fun hsome => ⟨_, arranged_of_isSome hsome⟩, fun ⟨_, h⟩ => (earliest h).1⟩

/-- **Thread rows are used exactly where they can be had.**  They are chosen if and only if some
line is a marker and some arrangement gives each line a cell, in reading order and with every marker
at the start of a row; the board is then packed in thread rows, which are such an arrangement, and
no other gives any line an earlier cell. -/
theorem usesThreadRows_complete (size : Size) (lines : List Line) :
    (usesThreadRows size lines = true ↔
      (∃ line ∈ lines, line.isMarker = true) ∧ ∃ placed, Arranged size 0 lines placed) ∧
    (usesThreadRows size lines = true →
      Board.ofLines lines size =
        .ok ((Board.empty size).place (ofLines size .threadRows lines).placed) ∧
      Arranged size 0 lines (ofLines size .threadRows lines).placed ∧
      ∀ placed, Arranged size 0 lines placed →
        NoLater size (ofLines size .threadRows lines).placed placed) := by
  refine ⟨usesThreadRows_iff, fun huses => ?_⟩
  have hsome : (ofLines size .threadRows lines).rows?.isSome = true := by
    rw [usesThreadRows, Bool.and_eq_true] at huses
    exact huses.2
  refine ⟨?_, arranged_of_isSome hsome, fun placed h => (earliest h).2⟩
  rw [Board.ofLines, choosePacking, if_pos huses]
  exact Board.pack_of_isSome hsome

/-- Two markers with a line between them, on a board of two rows: thread rows are used, and the
arrangement that leaves the first cell empty has no line earlier. -/
theorem usesThreadRows_complete_two_rows :
    usesThreadRows ⟨2, 3, by decide, by decide, by decide⟩
        (Script.ofTokens [.plain .play, .plain .thread2, ⟨.play, 2⟩]) = true ∧
      NoLater ⟨2, 3, by decide, by decide, by decide⟩
        (ofLines ⟨2, 3, by decide, by decide, by decide⟩ .threadRows
          (Script.ofTokens [.plain .play, .plain .thread2, ⟨.play, 2⟩])).placed
        [⟨0, 1, .plain .play⟩, ⟨1, 0, .plain .thread2⟩, ⟨1, 2, ⟨.play, 2⟩⟩] := by
  have harranged : Arranged ⟨2, 3, by decide, by decide, by decide⟩ 0
      (Script.ofTokens [.plain .play, .plain .thread2, ⟨.play, 2⟩])
      [⟨0, 1, .plain .play⟩, ⟨1, 0, .plain .thread2⟩, ⟨1, 2, ⟨.play, 2⟩⟩] := by
    constructor
    · refine Orderly.cons ⟨by decide, by decide⟩ (by decide) ?_
      refine Orderly.cons ⟨by decide, by decide⟩ (by decide) ?_
      exact Orderly.cons ⟨by decide, by decide⟩ (by decide) (Orderly.nil _ _)
    · exact .cons ⟨rfl, by decide⟩ (.cons ⟨rfl, by decide⟩ (.cons ⟨rfl, by decide⟩ .nil))
  have huses := (usesThreadRows_complete _ _).1.mpr ⟨by decide, _, harranged⟩
  exact ⟨huses, ((usesThreadRows_complete _ _).2 huses).2.2 _ harranged⟩

end Layout

end Tileboard
