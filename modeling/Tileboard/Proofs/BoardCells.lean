import Tileboard.Proofs.ReadingOrder
import Mathlib.Data.List.Sort

/-!
What the cells of a board hold, read by `get`, changed by `set` and listed by `placements`.

The cells of a board stand in one array, and `get`, `set` and `placements` compute with their
numbers.  This file trades the numbers for rows and columns, once and for all.

1. **Frame** — `set` changes the cell it names (`get_set_self`), no other cell (`get_set_of_ne`),
   and nothing at all where it refuses (`set_of_refused`).  The size stays (`size_set`).

2. **Placing** — tiles that stand one strictly after the other never meet, so each is found where it
   was put if it is valid (`get_place_of_mem`), and the other cells keep what they held
   (`get_place_of_forall_ne`).

3. **Listing** — `placements` lists exactly the occupied cells (`mem_placements_iff`), in reading
   order and each once (`orderly_placements`).  Two such lists with the same members are equal, and
   that is how `placements_place` finds all tiles of a board that was filled from empty.
-/

namespace Tileboard

namespace Board

variable {board : Board} {row col r c : Nat} {cell : Cell}

/-! ## Cells by row and column -/

theorem index?_of_lt (hr : row < board.size.rows) (hc : col < board.size.cols) :
    board.index? row col = some (board.size.index row col) :=
  if_pos ⟨hr, hc⟩

theorem index?_of_not_lt (h : ¬ (row < board.size.rows ∧ col < board.size.cols)) :
    board.index? row col = none :=
  if_neg h

theorem get_of_lt (hr : row < board.size.rows) (hc : col < board.size.cols) :
    board.get row col = (board.cells[board.size.index row col]?).join := by
  rw [get, index?_of_lt hr hc]

theorem get_of_not_lt (h : ¬ (row < board.size.rows ∧ col < board.size.cols)) :
    board.get row col = none := by
  rw [get, index?_of_not_lt h]

/-- A tile is found only on the board. -/
theorem lt_of_get_eq_some {token : Token} (h : board.get row col = some token) :
    row < board.size.rows ∧ col < board.size.cols := by
  by_contra hn
  rw [get_of_not_lt hn] at h
  exact absurd h (by simp)

/-- **Boards of one size with the same cells are equal.** -/
theorem ext_get {board' : Board} (hs : board.cells.size = board.size.area)
    (hs' : board'.cells.size = board'.size.area) (hsize : board.size = board'.size)
    (h : ∀ row col, board.get row col = board'.get row col) : board = board' := by
  obtain ⟨size, cells⟩ := board
  obtain ⟨size', cells'⟩ := board'
  obtain rfl : size = size' := hsize
  congr 1
  refine Array.ext (hs.trans hs'.symm) fun i hi hi' => ?_
  -- the cell with the number stands in this row and column
  have hlt : i < size.area := hs ▸ hi
  have hcol : i % size.cols < size.cols := Nat.mod_lt i size.cols_pos
  have hindex : size.index (i / size.cols) (i % size.cols) = i := Nat.div_add_mod' i size.cols
  have hrow : i / size.cols < size.rows := Size.row_lt_of_index_lt (hindex.symm ▸ hlt)
  have hcell := h (i / size.cols) (i % size.cols)
  rw [get_of_lt hrow hcol, get_of_lt hrow hcol, hindex, Array.getElem?_eq_getElem hi,
    Array.getElem?_eq_getElem hi'] at hcell
  exact hcell

theorem size_cells_empty (size : Size) : (empty size).cells.size = (empty size).size.area := by
  simp [empty]

theorem get_empty_board (size : Size) (row col : Nat) : (empty size).get row col = none := by
  rw [get]
  split
  · next i _ =>
    show ((Array.replicate size.area none)[i]?).join = none
    rw [Array.getElem?_replicate]
    split <;> rfl
  · rfl

/-! ## One write -/

/-- A write outside the board, or of a tile that is not valid, changes nothing. -/
theorem set_of_refused
    (h : ¬ (accepts cell = true ∧ row < board.size.rows ∧ col < board.size.cols)) :
    board.set row col cell = board := by
  rw [set, set?]
  split
  · next ha => rw [index?_of_not_lt (fun hb => h ⟨ha, hb⟩)]; rfl
  · rfl

/-- A write that is not refused replaces one cell of the array. -/
theorem set_of_accepted (ha : accepts cell = true) (hr : row < board.size.rows)
    (hc : col < board.size.cols) :
    board.set row col cell =
      { board with cells := board.cells.setIfInBounds (board.size.index row col) cell } := by
  rw [set, set?, if_pos ha, index?_of_lt hr hc]
  rfl

@[simp] theorem size_set (board : Board) (row col : Nat) (cell : Cell) :
    (board.set row col cell).size = board.size := by
  by_cases h : accepts cell = true ∧ row < board.size.rows ∧ col < board.size.cols
  · rw [set_of_accepted h.1 h.2.1 h.2.2]
  · rw [set_of_refused h]

@[simp] theorem size_cells_set (board : Board) (row col : Nat) (cell : Cell) :
    (board.set row col cell).cells.size = board.cells.size := by
  by_cases h : accepts cell = true ∧ row < board.size.rows ∧ col < board.size.cols
  · rw [set_of_accepted h.1 h.2.1 h.2.2]
    exact Array.size_setIfInBounds
  · rw [set_of_refused h]

/-- **A write is read back.** -/
theorem get_set_self (hs : board.cells.size = board.size.area) (ha : accepts cell = true)
    (hr : row < board.size.rows) (hc : col < board.size.cols) :
    (board.set row col cell).get row col = cell := by
  have hi : board.size.index row col < board.cells.size := by
    rw [hs]
    exact Size.index_lt_area hr hc
  have hr' : row < (board.set row col cell).size.rows := by rwa [size_set]
  have hc' : col < (board.set row col cell).size.cols := by rwa [size_set]
  rw [get_of_lt hr' hc', size_set, set_of_accepted ha hr hc]
  show ((board.cells.setIfInBounds _ cell)[board.size.index row col]?).join = cell
  rw [Array.getElem?_setIfInBounds_self_of_lt hi]
  rfl

/-- **A write leaves the other cells alone**: distinct cells have distinct numbers. -/
theorem get_set_of_ne (h : ¬ (r = row ∧ c = col)) :
    (board.set row col cell).get r c = board.get r c := by
  by_cases hset : accepts cell = true ∧ row < board.size.rows ∧ col < board.size.cols
  · by_cases hget : r < board.size.rows ∧ c < board.size.cols
    · have hr' : r < (board.set row col cell).size.rows := by rw [size_set]; exact hget.1
      have hc' : c < (board.set row col cell).size.cols := by rw [size_set]; exact hget.2
      rw [get_of_lt hr' hc', get_of_lt hget.1 hget.2, size_set,
        set_of_accepted hset.1 hset.2.1 hset.2.2]
      show ((board.cells.setIfInBounds _ cell)[board.size.index r c]?).join = _
      -- both cells are on the board, where the number determines the cell
      have hne : board.size.index row col ≠ board.size.index r c := by
        intro he
        obtain ⟨h1, h2⟩ := Size.index_inj hset.2.2 hget.2 he
        exact h ⟨h1.symm, h2.symm⟩
      rw [Array.getElem?_setIfInBounds_ne hne]
    · have hget' : ¬ (r < (board.set row col cell).size.rows ∧
          c < (board.set row col cell).size.cols) := by rwa [size_set]
      rw [get_of_not_lt hget', get_of_not_lt hget]
  · rw [set_of_refused hset]

/-! ## Many writes -/

theorem place_cons (board : Board) (p : Placement) (ps : List Placement) :
    board.place (p :: ps) = (board.set p.row p.col (some p.token)).place ps :=
  rfl

theorem size_place (ps : List Placement) : ∀ board : Board, (board.place ps).size = board.size := by
  induction ps with
  | nil => intro board; rfl
  | cons p ps ih => intro board; rw [place_cons, ih, size_set]

theorem size_cells_place (ps : List Placement) :
    ∀ board : Board, (board.place ps).cells.size = board.cells.size := by
  induction ps with
  | nil => intro board; rfl
  | cons p ps ih => intro board; rw [place_cons, ih, size_cells_set]

/-- A cell where no tile is put keeps what it holds. -/
theorem get_place_of_forall_ne {ps : List Placement} : ∀ {board : Board},
    (∀ p ∈ ps, ¬ (r = p.row ∧ c = p.col)) → (board.place ps).get r c = board.get r c := by
  induction ps with
  | nil => intro board _; rfl
  | cons p ps ih =>
    intro board h
    rw [place_cons, ih (fun q hq => h q (List.mem_cons_of_mem p hq)),
      get_set_of_ne (h p (List.mem_cons_self ..))]

/-- **Each tile is found where it was put**, if it is valid; otherwise its cell keeps what it held.
Induction on the tiles: those after the first stand behind its cell, so none of them is written over
it, and it is not written over any of theirs. -/
theorem get_place_of_mem {ps : List Placement} : ∀ {board : Board} {start : Nat},
    board.cells.size = board.size.area → Orderly board.size start ps → ∀ p ∈ ps,
      (board.place ps).get p.row p.col =
        if p.token.valid = true then some p.token else board.get p.row p.col := by
  induction ps with
  | nil => intro _ _ _ _ p hp; exact absurd hp List.not_mem_nil
  | cons first ps ih =>
    intro board start hs ho p hp
    have hbehind : ∀ q ∈ ps, first.index board.size < q.index board.size :=
      (List.pairwise_cons.mp ho.increasing).1
    rw [place_cons]
    rcases List.mem_cons.mp hp with rfl | hp
    · -- the first tile: the later ones stand elsewhere
      have hne : ∀ q ∈ ps, ¬ (p.row = q.row ∧ p.col = q.col) := by
        rintro q hq ⟨hr, hc⟩
        have := hbehind q hq
        rw [Placement.index, Placement.index, hr, hc] at this
        omega
      rw [get_place_of_forall_ne hne]
      obtain ⟨hr, hc⟩ := ho.on p (List.mem_cons_self ..)
      split
      · next hv => exact get_set_self hs hv hr hc
      · next hv =>
        have hrefused : ¬ accepts (some p.token) = true := hv
        rw [set_of_refused (fun h => hrefused h.1)]
    · -- a later tile: the first one stands elsewhere
      have hlater : Orderly (board.set first.row first.col (some first.token)).size
          (first.index board.size + 1) ps := by
        rw [size_set]
        exact ⟨fun q hq => ho.on q (List.mem_cons_of_mem first hq), hbehind,
          (List.pairwise_cons.mp ho.increasing).2⟩
      rw [ih (by rw [size_cells_set, size_set, hs]) hlater p hp]
      have hne : ¬ (p.row = first.row ∧ p.col = first.col) := by
        rintro ⟨hr, hc⟩
        have := hbehind p hp
        rw [Placement.index, Placement.index, hr, hc] at this
        omega
      rw [get_set_of_ne hne]

/-! ## The list of the tiles -/

/-- The numbers that are given to the members of a list increase. -/
theorem pairwise_zipIdx {α : Type} (xs : List α) : xs.zipIdx.Pairwise fun a b => a.2 < b.2 := by
  have h : (xs.zipIdx.map Prod.snd).Pairwise (· < ·) := by
    rw [List.zipIdx_map_snd]
    exact List.pairwise_lt_range'
  exact List.pairwise_map.mp h

/-- A tile is listed exactly if its cell holds it. -/
theorem mem_placements_iff (hs : board.cells.size = board.size.area) {p : Placement} :
    p ∈ board.placements ↔ board.get p.row p.col = some p.token := by
  have hmem : p ∈ board.placements ↔ ∃ i token, board.cells[i]? = some (some token) ∧
      (⟨i / board.size.cols, i % board.size.cols, token⟩ : Placement) = p := by
    simp only [placements, List.mem_filterMap, Prod.exists, List.mem_zipIdx_iff_getElem?,
      Option.map_eq_some_iff, Array.getElem?_toList]
    constructor
    · rintro ⟨_, i, hi, token, rfl, hp⟩
      exact ⟨i, token, hi, hp⟩
    · rintro ⟨i, token, hi, hp⟩
      exact ⟨some token, i, hi, token, rfl, hp⟩
  rw [hmem]
  constructor
  · rintro ⟨i, token, hi, rfl⟩
    have hlt : i < board.size.rows * board.size.cols := by
      show i < board.size.area
      rw [← hs]
      exact (Array.getElem?_eq_some_iff.mp hi).1
    have hr : i / board.size.cols < board.size.rows := Nat.div_lt_of_lt_mul (by rwa [Nat.mul_comm])
    have hnum : board.size.index (i / board.size.cols) (i % board.size.cols) = i :=
      Nat.div_add_mod' i board.size.cols
    rw [get_of_lt hr (Nat.mod_lt i board.size.cols_pos), hnum, hi]
    rfl
  · intro h
    obtain ⟨hr, hc⟩ := lt_of_get_eq_some h
    rw [get_of_lt hr hc] at h
    refine ⟨board.size.index p.row p.col, p.token, ?_, ?_⟩
    · exact Option.join_eq_some_iff.mp h
    · rw [Size.index_div hc, Size.index_mod hc]

/-- **The tiles are listed in reading order**, each cell at most once. -/
theorem orderly_placements (hs : board.cells.size = board.size.area) :
    Orderly board.size 0 board.placements := by
  refine ⟨?_, fun p _ => Nat.zero_le _, ?_⟩
  · intro p hp
    exact lt_of_get_eq_some ((mem_placements_iff hs).mp hp)
  · rw [placements, List.pairwise_filterMap]
    -- the cells are numbered in order, and leaving out the empty ones keeps the order
    refine (pairwise_zipIdx board.cells.toList).imp ?_
    rintro ⟨_, i⟩ ⟨_, j⟩ hij p hp q hq
    obtain ⟨_, _, rfl⟩ := Option.map_eq_some_iff.mp hp
    obtain ⟨_, _, rfl⟩ := Option.map_eq_some_iff.mp hq
    show i / board.size.cols * board.size.cols + i % board.size.cols <
      j / board.size.cols * board.size.cols + j % board.size.cols
    rw [Nat.div_add_mod', Nat.div_add_mod']
    exact hij

/-- Orderly lists with the same members are equal. -/
theorem eq_of_orderly {size : Size} {ps qs : List Placement} (hp : Orderly size 0 ps)
    (hq : Orderly size 0 qs) (h : ∀ p, p ∈ ps ↔ p ∈ qs) : ps = qs := by
  have : Std.Irrefl fun p q : Placement => p.index size < q.index size :=
    ⟨fun p => Nat.lt_irrefl _⟩
  have : Std.Antisymm fun p q : Placement => p.index size < q.index size :=
    ⟨fun p q h1 h2 => absurd (Nat.lt_trans h1 h2) (Nat.lt_irrefl _)⟩
  exact List.Pairwise.eq_of_mem_iff hp.increasing hq.increasing h

/-- **The tiles of a board that was filled from empty** are the valid ones among those that were
put there. -/
theorem placements_place {size : Size} {ps : List Placement} (ho : Orderly size 0 ps) :
    ((empty size).place ps).placements = ps.filter (·.token.valid) := by
  have hs : ((empty size).place ps).cells.size = ((empty size).place ps).size.area := by
    rw [size_cells_place, size_place, size_cells_empty]
  have hlist := orderly_placements hs
  rw [size_place] at hlist
  refine eq_of_orderly hlist ?_ ?_
  · exact ⟨fun p hp => ho.on p (List.mem_of_mem_filter hp), fun p _ => Nat.zero_le _,
      ho.increasing.filter _⟩
  · intro p
    rw [mem_placements_iff hs, List.mem_filter]
    constructor
    · intro h
      by_cases hcell : ∃ q ∈ ps, p.row = q.row ∧ p.col = q.col
      · -- what the cell holds is the tile that was put there
        obtain ⟨q, hq, hr, hc⟩ := hcell
        rw [hr, hc, get_place_of_mem (size_cells_empty size) ho q hq, get_empty_board] at h
        split at h
        · next hv =>
          injection h with htok
          have hpq : p = q := by
            cases p; cases q
            simp only at hr hc htok
            rw [hr, hc, htok]
          subst hpq
          exact ⟨hq, hv⟩
        · exact absurd h (by simp)
      · -- a cell where nothing was put is still empty
        have hne : ∀ q ∈ ps, ¬ (p.row = q.row ∧ p.col = q.col) :=
          fun q hq heq => hcell ⟨q, hq, heq⟩
        rw [get_place_of_forall_ne hne, get_empty_board] at h
        exact absurd h (by simp)
    · rintro ⟨hp, hv⟩
      rw [get_place_of_mem (size_cells_empty size) ho p hp, if_pos hv]

end Board

end Tileboard
