import Tileboard.Proofs.BlockRows
import Tileboard.Proofs.Packing

/-!
The cells that a layout gives, block by block.

1. **Closed form** — the blocks of a sequence are determined by what they are made of (`IsCut`,
   `IsCut.eq_lead_headed`).  A block starts at the row below those of the blocks before it, and the
   number of a line in its block determines its cell there (`blockCell`, `cellsOf`).  The cells may
   lie below the board.

2. **One line** — behind so many lines of a block, the walk gives a line the cell of the closed
   form, and then stands behind that line of its block, or behind the first line of a new one
   (`settle_cellsBehind`).

3. **All lines** — so the walk gives the cells of the closed form up to the first one below the
   board, behind which all are below it (`exists_below`).

4. **Result** — `ofLines_by_blocks`: the cells on the board are those that are given, in order, and
   the rows of the blocks decide whether these are all.
-/

namespace Tileboard

/-! ## Closed form -/

namespace Blocks

variable {α : Type} {opens : α → Bool} {xs first : List α} {rest : List (List α)}

/-- The sequence cut in front of every entry that opens a block: the first block holds none of them,
and each other block begins with one and holds no further one. -/
structure IsCut (opens : α → Bool) (xs first : List α) (rest : List (List α)) : Prop where
  join : first ++ rest.flatten = xs
  first_plain : ∀ x ∈ first, opens x = false
  rest_headed : ∀ block ∈ rest,
    ∃ x tail, block = x :: tail ∧ opens x = true ∧ ∀ y ∈ tail, opens y = false

theorem isCut_cut (opens : α → Bool) (xs : List α) :
    IsCut opens xs (lead opens xs) (headed opens xs) := by
  induction xs with
  | nil =>
    exact ⟨rfl, fun x hx => absurd hx List.not_mem_nil, fun b hb => absurd hb List.not_mem_nil⟩
  | cons x xs ih =>
    obtain ⟨hjoin, hplain, hheaded⟩ := ih
    cases hx : opens x with
    | false =>
      rw [lead_cons_of_not hx, headed_cons_of_not hx]
      refine ⟨by rw [List.cons_append, hjoin], fun y hy => ?_, hheaded⟩
      rcases List.mem_cons.mp hy with rfl | hy
      · exact hx
      · exact hplain y hy
    | true =>
      rw [lead_cons_of_opens hx, headed_cons_of_opens hx]
      refine ⟨by rw [List.nil_append, List.flatten_cons, List.cons_append, hjoin],
        fun y hy => absurd hy List.not_mem_nil, fun block hblock => ?_⟩
      rcases List.mem_cons.mp hblock with rfl | hblock
      · exact ⟨x, _, rfl, hx, hplain⟩
      · exact hheaded block hblock

/-- **There is one way to cut a sequence into its blocks.** -/
theorem IsCut.eq_lead_headed (h : IsCut opens xs first rest) :
    first = lead opens xs ∧ rest = headed opens xs := by
  induction xs generalizing first rest with
  | nil =>
    obtain ⟨hfirst, hrest⟩ := List.append_eq_nil_iff.mp h.join
    refine ⟨hfirst, ?_⟩
    cases rest with
    | nil => rfl
    | cons block rest =>
      -- a block behind the first holds the entry that opens it
      obtain ⟨x, tail, rfl, -⟩ := h.rest_headed block (List.mem_cons_self ..)
      nomatch hrest
  | cons x xs ih =>
    have hjoin := h.join
    cases first with
    | cons y first =>
      rw [List.cons_append, List.cons.injEq] at hjoin
      obtain ⟨rfl, hjoin⟩ := hjoin
      have hy : opens y = false := h.first_plain y (List.mem_cons_self ..)
      obtain ⟨hfirst, hrest⟩ :=
        ih ⟨hjoin, fun z hz => h.first_plain z (List.mem_cons_of_mem y hz), h.rest_headed⟩
      rw [lead_cons_of_not hy, headed_cons_of_not hy, ← hfirst, ← hrest]
      exact ⟨rfl, rfl⟩
    | nil =>
      cases rest with
      | nil => nomatch hjoin
      | cons block rest =>
        obtain ⟨y, tail, rfl, hy, htail⟩ := h.rest_headed block (List.mem_cons_self ..)
        rw [List.nil_append, List.flatten_cons, List.cons_append, List.cons.injEq] at hjoin
        obtain ⟨rfl, hjoin⟩ := hjoin
        obtain ⟨hfirst, hrest⟩ :=
          ih ⟨hjoin, htail, fun b hb => h.rest_headed b (List.mem_cons_of_mem _ hb)⟩
        rw [lead_cons_of_opens hy, headed_cons_of_opens hy, ← hfirst, ← hrest]
        exact ⟨rfl, rfl⟩

end Blocks

/-- Full rows are among the rows that cells take. -/
theorem Size.div_le_rowsFor (size : Size) (n : Nat) : n / size.cols ≤ size.rowsFor n := by
  rw [← Nat.floorDiv_eq_div]
  exact floorDiv_le_ceilDiv

namespace Layout

open Cursor Blocks

variable {size : Size} {packing : Packing} {lines : List Line}

/-- The cell of a line with its number in a block that starts at the given row. -/
def blockCell (size : Size) (row : Nat) (line : Line × Nat) : Placement :=
  ⟨row + line.2 / size.cols, line.2 % size.cols, line.1.token⟩

/-- The cells of the lines of blocks, each of which starts at the row below those of all blocks
before it. -/
def cellsOf (size : Size) (blocks : List (List Line)) : List Placement :=
  blocks.zipIdx.flatMap fun (block, b) =>
    block.zipIdx.map (blockCell size (size.rowsOf (blocks.take b)))

/-- The cells of the lines of blocks when the first one starts at the given row. -/
def cellsFrom (size : Size) (row : Nat) : List (List Line) → List Placement
  | [] => []
  | block :: rest =>
    block.zipIdx.map (blockCell size row) ++ cellsFrom size (row + size.rowsFor block.length) rest

theorem cellsFrom_eq (size : Size) (row : Nat) (blocks : List (List Line)) :
    cellsFrom size row blocks = blocks.zipIdx.flatMap fun (block, b) =>
      block.zipIdx.map (blockCell size (row + size.rowsOf (blocks.take b))) := by
  induction blocks generalizing row with
  | nil => rfl
  | cons block rest ih =>
    rw [cellsFrom, ih, List.zipIdx_cons, List.zipIdx_succ, List.flatMap_cons, List.flatMap_map]
    congr 1
    refine List.flatMap_congr fun ⟨other, b⟩ _ => ?_
    dsimp only
    rw [List.take_succ_cons, Size.rowsOf_cons, Nat.add_assoc]

theorem cellsOf_eq_cellsFrom (size : Size) (blocks : List (List Line)) :
    cellsOf size blocks = cellsFrom size 0 blocks := by
  simp only [cellsFrom_eq, Nat.zero_add, cellsOf]

/-! ## One line -/

/-- The cells of the lines behind `n` lines of a block that starts at the given row. -/
def cellsBehind (size : Size) (packing : Packing) (row n : Nat) (lines : List Line) :
    List Placement :=
  let block := lead (Line.opens packing) lines
  (block.zipIdx n).map (blockCell size row) ++
    cellsFrom size (row + size.rowsFor (n + block.length)) (headed (Line.opens packing) lines)

theorem cellsBehind_cons_of_not {line : Line} {rest : List Line} {row n : Nat}
    (h : line.opens packing = false) :
    cellsBehind size packing row n (line :: rest) =
      ⟨row + n / size.cols, n % size.cols, line.token⟩ ::
        cellsBehind size packing row (n + 1) rest := by
  have hlength : n + ((lead (Line.opens packing) rest).length + 1) =
      n + 1 + (lead (Line.opens packing) rest).length := by omega
  simp only [cellsBehind, lead_cons_of_not h, headed_cons_of_not h, List.zipIdx_cons,
    List.map_cons, List.cons_append, List.length_cons, hlength]
  rfl

theorem cellsBehind_cons_of_opens {line : Line} {rest : List Line} {row n : Nat}
    (h : line.opens packing = true) :
    cellsBehind size packing row n (line :: rest) =
      ⟨row + size.rowsFor n, 0, line.token⟩ ::
        cellsBehind size packing (row + size.rowsFor n) 1 rest := by
  have hcell : blockCell size (row + size.rowsFor n) (line, 0) =
      ⟨row + size.rowsFor n, 0, line.token⟩ := by
    rw [blockCell, Nat.zero_div, Nat.zero_mod]
    rfl
  simp only [cellsBehind, lead_cons_of_opens h, headed_cons_of_opens h, cellsFrom,
    List.zipIdx_nil, List.map_nil, List.nil_append, List.length_nil, Nat.add_zero,
    List.zipIdx_cons, List.map_cons, List.cons_append, List.length_cons, hcell,
    Nat.add_comm 1, Nat.zero_add]

/-- **The walk gives a line its cell of the closed form**, and then stands behind so many lines of a
block again, in no row above that of the cell. -/
theorem settle_cellsBehind (size : Size) (packing : Packing) (line : Line) (rest : List Line)
    (row n : Nat) :
    let cell := (behind size row n).settle size packing line
    row + n / size.cols ≤ cell.row ∧
    ∃ row' n', cell.step = behind size row' n' ∧ cell.row ≤ row' + n' / size.cols ∧
      cellsBehind size packing row n (line :: rest) =
        ⟨cell.row, cell.col, line.token⟩ :: cellsBehind size packing row' n' rest := by
  intro cell
  cases hopens : line.opens packing with
  | false =>
    have hcell : cell = ⟨row + n / size.cols, n % size.cols⟩ := settle_behind_of_stays hopens
    have hnext : n / size.cols ≤ (n + 1) / size.cols := Nat.div_le_div_right (Nat.le_succ n)
    rw [hcell]
    exact ⟨Nat.le_refl _, row, n + 1, rfl, Nat.add_le_add_left hnext row,
      cellsBehind_cons_of_not hopens⟩
  | true =>
    have hcell : cell = behind size (row + size.rowsFor n) 0 := settle_behind_of_opens hopens
    rw [hcell]
    exact ⟨Nat.add_le_add_left (Size.div_le_rowsFor size n) row, row + size.rowsFor n, 1,
      step_behind_zero size _, Nat.le_add_right _ _, cellsBehind_cons_of_opens hopens⟩

/-! ## All lines -/

/-- No line behind so many of a block has a cell in a row that they have filled. -/
theorem row_le_of_mem_cellsBehind {p : Placement} : ∀ {lines : List Line} {row n : Nat},
    p ∈ cellsBehind size packing row n lines → row + n / size.cols ≤ p.row := by
  intro lines
  induction lines with
  | nil => intro row n hp; exact absurd hp List.not_mem_nil
  | cons line rest ih =>
    intro row n hp
    obtain ⟨hle, row', n', -, hnext, hcells⟩ :=
      settle_cellsBehind size packing line rest row n
    rw [hcells] at hp
    rcases List.mem_cons.mp hp with rfl | hp
    · exact hle
    · exact Nat.le_trans hle (Nat.le_trans hnext (ih hp))

/-- **The walk gives the cells of the closed form up to the first one below the board**, and reaches
the end of the lines exactly if there is none.  Induction on the lines; the first line whose cell is
below the board ends the walk, and the cells of all lines behind it are below the board too. -/
theorem exists_below (size : Size) (packing : Packing) : ∀ (lines : List Line) (row n : Nat),
    ∃ below, cellsBehind size packing row n lines =
        (ofLinesFrom size packing (behind size row n) lines).placed ++ below ∧
      (∀ p ∈ below, size.rows ≤ p.row) ∧
      ((ofLinesFrom size packing (behind size row n) lines).rows? = none ↔ below ≠ []) := by
  intro lines
  induction lines with
  | nil =>
    intro row n
    exact ⟨[], rfl, fun p hp => absurd hp List.not_mem_nil, by simp [ofLinesFrom]⟩
  | cons line rest ih =>
    intro row n
    obtain ⟨hle, row', n', hstep, hnext, hcells⟩ :=
      settle_cellsBehind size packing line rest row n
    rcases Nat.lt_or_ge ((behind size row n).settle size packing line).row size.rows with hr | hr
    · obtain ⟨below, hsplit, hbelow, hnone⟩ := ih row' n'
      rw [ofLinesFrom_cons_of_lt hr, hcells]
      dsimp only
      rw [hstep, hsplit]
      exact ⟨below, rfl, hbelow, hnone⟩
    · rw [ofLinesFrom_cons_of_ge hr, hcells]
      refine ⟨_, rfl, fun p hp => ?_, by simp⟩
      rcases List.mem_cons.mp hp with rfl | hp
      · exact hr
      · exact Nat.le_trans hr (Nat.le_trans hnext (row_le_of_mem_cellsBehind hp))

/-- The lines of blocks have a cell each, in their order. -/
theorem map_token_cellsOf (size : Size) (blocks : List (List Line)) :
    (cellsOf size blocks).map (·.token) = blocks.flatten.map (·.token) := by
  rw [cellsOf_eq_cellsFrom]
  generalize 0 = row
  induction blocks generalizing row with
  | nil => rfl
  | cons block rest ih =>
    have hblock : (block.zipIdx.map (blockCell size row)).map (·.token) = block.map (·.token) := by
      rw [List.map_map]
      show block.zipIdx.map ((·.token) ∘ Prod.fst) = _
      rw [← List.map_map, List.zipIdx_map_fst]
    rw [cellsFrom, List.map_append, hblock, ih, List.flatten_cons, List.map_append]

/-! ## Result -/

/-- The cells of the closed form are those that the layout gives, and behind them cells below the
board. -/
theorem exists_below_cut (size : Size) (packing : Packing) (lines : List Line) :
    ∃ below, cellsOf size (cut (Line.opens packing) lines) =
        (ofLines size packing lines).placed ++ below ∧
      (∀ p ∈ below, size.rows ≤ p.row) ∧
      ((ofLines size packing lines).rows? = none ↔ below ≠ []) := by
  have hstart : cellsOf size (cut (Line.opens packing) lines) =
      cellsBehind size packing 0 0 lines := by
    simp only [cellsOf_eq_cellsFrom, cut, cellsFrom, cellsBehind, Nat.zero_add]
  rw [hstart]
  exact exists_below size packing lines 0 0

/-- The tiles of a layout are in rows of the board. -/
theorem row_lt_of_mem_placed {p : Placement} (h : p ∈ (ofLines size packing lines).placed) :
    p.row < size.rows :=
  ((orderly_ofLines size packing lines).on p h).1

theorem placed_prefix (size : Size) (packing : Packing) (lines : List Line) :
    (ofLines size packing lines).placed <+: cellsOf size (cut (Line.opens packing) lines) := by
  obtain ⟨below, hsplit, -⟩ := exists_below_cut size packing lines
  exact ⟨below, hsplit.symm⟩

/-- **A layout gives the cells that are on the board.** -/
theorem placed_eq_filter (size : Size) (packing : Packing) (lines : List Line) :
    (ofLines size packing lines).placed =
      (cellsOf size (cut (Line.opens packing) lines)).filter (fun p => p.row < size.rows) := by
  obtain ⟨below, hsplit, hbelow, -⟩ := exists_below_cut size packing lines
  have hkept : (ofLines size packing lines).placed.filter (fun p => p.row < size.rows) =
      (ofLines size packing lines).placed :=
    List.filter_eq_self.mpr fun p hp => decide_eq_true (row_lt_of_mem_placed hp)
  have hdropped : below.filter (fun p => p.row < size.rows) = [] :=
    List.filter_eq_nil_iff.mpr fun p hp => by simpa using hbelow p hp
  rw [hsplit, List.filter_append, hkept, hdropped, List.append_nil]

/-- **A layout does not reach the end if some cell is below the board.** -/
theorem rows?_eq_none_iff (size : Size) (packing : Packing) (lines : List Line) :
    (ofLines size packing lines).rows? = none ↔
      ∃ p ∈ cellsOf size (cut (Line.opens packing) lines), size.rows ≤ p.row := by
  obtain ⟨below, hsplit, hbelow, hnone⟩ := exists_below_cut size packing lines
  rw [hnone, hsplit]
  constructor
  · intro hne
    obtain ⟨p, below, rfl⟩ := List.exists_cons_of_ne_nil hne
    have hp : p ∈ p :: below := List.mem_cons_self ..
    exact ⟨p, List.mem_append_right _ hp, hbelow p hp⟩
  · rintro ⟨p, hp, hrow⟩ rfl
    rw [List.append_nil] at hp
    exact absurd (row_lt_of_mem_placed hp) (Nat.not_lt.mpr hrow)

/-- A layout does not reach the end if its blocks take more rows than the board has. -/
theorem rows?_eq_none_iff_lt (size : Size) (packing : Packing) (lines : List Line) :
    (ofLines size packing lines).rows? = none ↔
      size.rows < size.rowsOf (cut (Line.opens packing) lines) := by
  rw [rows?_ofLines, Size.fit?, ← Nat.not_le]
  split
  · next hle => exact ⟨fun hsome => (nomatch hsome), fun hlt => absurd hle hlt⟩
  · next hlt => exact ⟨fun _ => hlt, fun _ => rfl⟩

theorem rows?_eq_none_iff_overflow (size : Size) (packing : Packing) (lines : List Line) :
    (ofLines size packing lines).rows? = none ↔
      Board.pack size packing lines = .error (.overflow size.rows) := by
  rw [← Option.not_isSome_iff_eq_none]
  refine ⟨Board.pack_of_isNone, fun hpack hsome => ?_⟩
  rw [Board.pack_of_isSome hsome] at hpack
  nomatch hpack

/-- **A layout is what its blocks make it**, in either packing.  Every sequence of lines is cut into
blocks: with thread rows each marker begins one, and what precedes the first marker is a block too,
which may be empty; densely packed lines are one block.  There is one way to do so, and for it:

* each line has a cell that is determined by its number in the block, which starts at the row below
  the rows of the blocks before it;
* the layout gives exactly the cells that are on the board, in order, and they are those of the
  first lines;
* it takes the rows of all blocks, and it overflows exactly if the board has fewer, which is to say
  that some cell is below the board. -/
theorem ofLines_by_blocks (size : Size) (packing : Packing) (lines : List Line) :
    (∃ first rest, IsCut (Line.opens packing) lines first rest) ∧
    ∀ first rest, IsCut (Line.opens packing) lines first rest →
      let blocks := first :: rest
      let cells := cellsOf size blocks
      let layout := ofLines size packing lines
      (packing = .dense → blocks = [lines]) ∧
      cells.map (·.token) = lines.map (·.token) ∧
      layout.placed = cells.filter (fun p => p.row < size.rows) ∧
      layout.placed <+: cells ∧
      layout.rows? = (if size.rowsOf blocks ≤ size.rows then some (size.rowsOf blocks) else none) ∧
      (size.rows < size.rowsOf blocks ↔ ∃ p ∈ cells, size.rows ≤ p.row) ∧
      (size.rows < size.rowsOf blocks ↔
        Board.pack size packing lines = .error (.overflow size.rows)) := by
  refine ⟨⟨_, _, isCut_cut (Line.opens packing) lines⟩, fun first rest hcut => ?_⟩
  have hjoin := hcut.join
  obtain ⟨rfl, rfl⟩ := hcut.eq_lead_headed
  have hoverflow := rows?_eq_none_iff_lt size packing lines
  refine ⟨?_, ?_, placed_eq_filter size packing lines, placed_prefix size packing lines,
    rows?_ofLines size packing lines, ?_, ?_⟩
  · rintro rfl
    exact cut_of_forall_not fun _ _ => rfl
  · rw [map_token_cellsOf, List.flatten_cons, hjoin]
  · exact hoverflow.symm.trans (rows?_eq_none_iff size packing lines)
  · exact hoverflow.symm.trans (rows?_eq_none_iff_overflow size packing lines)

example (size : Size) (packing : Packing) : (ofLines size packing []).rows? = some 0 := rfl

/-- On a board of two rows and two columns, three lines take both rows, although the second is not
full, and the marker behind them and the line after it lie below the board. -/
theorem ofLines_by_blocks_below_board :
    ∃ size lines, size = ⟨2, 2, by decide, by decide, by decide⟩ ∧
      lines = Script.ofTokens [.plain .play, ⟨.play, 1⟩, ⟨.play, 2⟩, .plain .thread2, ⟨.play, 3⟩] ∧
      (ofLines size .threadRows lines).placed =
        [⟨0, 0, .plain .play⟩, ⟨0, 1, ⟨.play, 1⟩⟩, ⟨1, 0, ⟨.play, 2⟩⟩] ∧
      (ofLines size .threadRows lines).rows? = none ∧
      Board.pack size .threadRows lines = .error (.overflow 2) := by
  let size : Size := ⟨2, 2, by decide, by decide, by decide⟩
  let lines := Script.ofTokens
    [.plain .play, ⟨.play, 1⟩, ⟨.play, 2⟩, .plain .thread2, ⟨.play, 3⟩]
  have hcut : IsCut (Line.opens .threadRows) lines (lines.take 3) [lines.drop 3] := by
    refine ⟨rfl, by decide, fun block hblock => ?_⟩
    rw [List.mem_singleton.mp hblock]
    exact ⟨_, _, rfl, rfl, by decide⟩
  obtain ⟨-, -, hplaced, -, hrows, -, hpack⟩ :=
    (ofLines_by_blocks size .threadRows lines).2 _ _ hcut
  exact ⟨size, lines, rfl, rfl, hplaced.trans (by decide), hrows.trans (by decide),
    hpack.mp (by decide)⟩

end Layout

end Tileboard
