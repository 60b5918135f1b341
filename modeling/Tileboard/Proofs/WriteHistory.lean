import Tileboard.Proofs.BoardCells
import Mathlib.Data.List.Induction

/-!
A board after any history of writes is the map of the last writes that it accepted.

All cells stand in one array, and a write may be refused.  Here a history is replayed write by write,
and the board behind it is compared with the list of the accepted writes alone.

1. **One write** — it is accepted exactly if its cell is on the board and its tile has a rotation of
   its kind (`isSome_set?_iff`).  It changes its own cell if it is accepted, and nothing else
   (`get_write`).

2. **A history** — which writes are accepted does not depend on those before them (`accepted_eq`), and a
   cell holds what the last accepted write on it put there (`get_writeAll`).

3. **Order** — writes to different cells commute, because the boards behind them have the same cells
   (`write_comm`).

4. **Headline** — `writes_update_map`.
-/

namespace Tileboard

/-- One write: a cell, and what is to stand in it. -/
structure Write where
  row : Nat
  col : Nat
  cell : Cell
  deriving DecidableEq, Repr

namespace Write

/-- The write is on the cell. -/
def On (row col : Nat) (w : Write) : Prop :=
  w.row = row ∧ w.col = col

instance (row col : Nat) : DecidablePred (On row col) :=
  fun w => inferInstanceAs (Decidable (w.row = row ∧ w.col = col))

/-- The cell is on a board of the size, and the tile has a rotation of its kind if there is one. -/
def Fits (size : Size) (w : Write) : Prop :=
  w.row < size.rows ∧ w.col < size.cols ∧ ∀ token ∈ w.cell, token.param ≤ token.kind.maxParam

instance (size : Size) : DecidablePred (Fits size) :=
  fun w => inferInstanceAs (Decidable (w.row < size.rows ∧ w.col < size.cols ∧
    ∀ token ∈ w.cell, token.param ≤ token.kind.maxParam))

end Write

namespace Board

/-- The board after a write, which may have been refused. -/
def write (board : Board) (w : Write) : Board :=
  board.set w.row w.col w.cell

/-- The board after writes, one after the other. -/
def writeAll (board : Board) (writes : List Write) : Board :=
  writes.foldl write board

/-- The writes that are accepted when they are made one after the other. -/
def accepted (board : Board) : List Write → List Write
  | [] => []
  | w :: rest =>
    if (board.set? w.row w.col w.cell).isSome then w :: (board.write w).accepted rest
    else (board.write w).accepted rest

variable {board : Board} {row col : Nat}

/-! ## One write -/

theorem accepts_iff {cell : Cell} : accepts cell = true ↔
    ∀ token ∈ cell, token.param ≤ token.kind.maxParam := by
  cases cell with
  | none => simp [accepts]
  | some token => simp [accepts, Token.valid]

/-- **When a write is accepted.** -/
theorem isSome_set?_iff {w : Write} :
    (board.set? w.row w.col w.cell).isSome = true ↔ w.Fits board.size := by
  rw [Write.Fits, ← accepts_iff, set?]
  by_cases ha : accepts w.cell = true
  · by_cases hon : w.row < board.size.rows ∧ w.col < board.size.cols
    · simp [ha, index?_of_lt hon.1 hon.2, hon]
    · simp only [ha, index?_of_not_lt hon]
      simpa using hon
  · simp [ha]

theorem write_of_not_fits {w : Write} (h : ¬ w.Fits board.size) : board.write w = board := by
  rw [Write.Fits, ← accepts_iff] at h
  exact set_of_refused fun ⟨ha, hr, hc⟩ => h ⟨hr, hc, ha⟩

@[simp] theorem size_write (board : Board) (w : Write) : (board.write w).size = board.size :=
  size_set ..

theorem size_cells_write (hs : board.cells.size = board.size.area) (w : Write) :
    (board.write w).cells.size = (board.write w).size.area := by
  rw [write, size_cells_set, size_set, hs]

/-- **What a write changes**: its own cell, if it is accepted. -/
theorem get_write (hs : board.cells.size = board.size.area) (w : Write) :
    (board.write w).get row col =
      if w.Fits board.size ∧ w.On row col then w.cell else board.get row col := by
  by_cases hfits : w.Fits board.size
  · obtain ⟨hr, hc, ha⟩ := hfits
    by_cases hon : w.On row col
    · rw [if_pos ⟨⟨hr, hc, ha⟩, hon⟩]
      obtain ⟨rfl, rfl⟩ := hon
      exact get_set_self hs (accepts_iff.mpr ha) hr hc
    · rw [if_neg fun h => hon h.2]
      exact get_set_of_ne fun h => hon ⟨h.1.symm, h.2.symm⟩
  · rw [if_neg fun h => hfits h.1, write_of_not_fits hfits]

/-! ## Histories -/

theorem writeAll_append (board : Board) (front rest : List Write) :
    board.writeAll (front ++ rest) = (board.writeAll front).writeAll rest :=
  List.foldl_append ..

theorem writeAll_concat (board : Board) (front : List Write) (w : Write) :
    board.writeAll (front ++ [w]) = (board.writeAll front).write w :=
  writeAll_append ..

@[simp] theorem size_writeAll (board : Board) (writes : List Write) :
    (board.writeAll writes).size = board.size := by
  induction writes generalizing board with
  | nil => rfl
  | cons w rest ih => exact (ih _).trans (size_write board w)

theorem size_cells_writeAll (hs : board.cells.size = board.size.area) (writes : List Write) :
    (board.writeAll writes).cells.size = (board.writeAll writes).size.area := by
  induction writes generalizing board with
  | nil => exact hs
  | cons w rest ih => exact ih (size_cells_write hs w)

/-- **A write is accepted or refused whatever the writes before it.** -/
theorem accepted_eq (board : Board) (writes : List Write) :
    board.accepted writes = writes.filter fun w => w.Fits board.size := by
  induction writes generalizing board with
  | nil => rfl
  | cons w rest ih =>
    rw [accepted, ih, size_write, List.filter_cons]
    simp only [isSome_set?_iff, decide_eq_true_eq]

/-- **A cell holds what the last accepted write on it put there**, and what it held at first if there
is none.  Induction on the history from its end. -/
theorem get_writeAll (hs : board.cells.size = board.size.area) (writes : List Write) :
    (board.writeAll writes).get row col =
      (((board.accepted writes).filter (Write.On row col ·)).getLast?.map (·.cell)).getD
        (board.get row col) := by
  induction writes using List.reverseRecOn with
  | nil => rfl
  | append_singleton front w ih =>
    rw [writeAll_concat, get_write (size_cells_writeAll hs front), ih, size_writeAll]
    simp only [accepted_eq, List.filter_append, List.filter_filter]
    by_cases hw : w.Fits board.size ∧ w.On row col
    · simp [hw]
    · have hnone : [w].filter (fun w => decide (w.On row col) && decide (w.Fits board.size)) = [] := by
        simpa [and_comm] using hw
      rw [if_neg hw, hnone, List.append_nil]

/-! ## Order -/

/-- **Writes to different cells commute.** -/
theorem write_comm (hs : board.cells.size = board.size.area) {w w' : Write}
    (h : ¬ w.On w'.row w'.col) : (board.write w).write w' = (board.write w').write w := by
  have hw := size_cells_write hs w
  have hw' := size_cells_write hs w'
  refine ext_get (size_cells_write hw w') (size_cells_write hw' w) (by simp) fun row col => ?_
  rw [get_write hw, get_write hs, get_write hw', get_write hs, size_write, size_write]
  by_cases hon : w.On row col
  · -- the cell is not that of the other write
    have hother : ¬ w'.On row col := by
      rintro ⟨rfl, rfl⟩
      exact h hon
    simp [hother]
  · simp [hon]

/-! ## Headline -/

/-- **A board is the map of the writes that it has accepted.**  On an empty board of any size, after any
history of writes, refused ones among them:

* the next write is accepted exactly if its cell is on the board and its tile, if there is one, has a
  rotation of its kind;
* a write that is refused leaves the board as it was;
* every cell holds what the last accepted write on it put there, and nothing if there is none;
* two writes in a row that are on different cells can change places. -/
theorem writes_update_map (size : Size) (writes : List Write) :
    (∀ w : Write, (((empty size).writeAll writes).set? w.row w.col w.cell).isSome = true ↔
      w.row < size.rows ∧ w.col < size.cols ∧
        ∀ token, w.cell = some token → token.param ≤ token.kind.maxParam) ∧
    (∀ w : Write, ((empty size).writeAll writes).set? w.row w.col w.cell = none →
      (empty size).writeAll (writes ++ [w]) = (empty size).writeAll writes) ∧
    (∀ row col, ((empty size).writeAll writes).get row col =
      ((((empty size).accepted writes).filter fun w => w.row = row ∧ w.col = col).getLast?.map
        (·.cell)).getD none) ∧
    ∀ front w w' rest, writes = front ++ w :: w' :: rest → w.row ≠ w'.row ∨ w.col ≠ w'.col →
      (empty size).writeAll (front ++ w' :: w :: rest) = (empty size).writeAll writes := by
  have hs := size_cells_empty size
  refine ⟨fun w => ?_, fun w hrefused => ?_, fun row col => ?_, ?_⟩
  · rw [isSome_set?_iff, size_writeAll]
    exact Iff.rfl
  · rw [writeAll_concat, write, set, hrefused]
    rfl
  · rw [get_writeAll hs, get_empty_board]
    rfl
  · rintro front w w' rest rfl hne
    have hoff : ¬ w'.On w.row w.col := fun h => hne.elim (· h.1.symm) (· h.2.symm)
    rw [writeAll_append, writeAll_append]
    show (((_ : Board).write w').write w).writeAll rest = (((_ : Board).write w).write w').writeAll rest
    rw [write_comm (size_cells_writeAll hs front) hoff]

/-- Four writes on a board of two rows and three columns: a tile that is written over by the third write,
and a write in a row that there is not.  A fifth one, of a tile in a rotation that its kind has not, is
refused, and the first two are on different cells, so they can change places. -/
theorem writes_update_map_with_refusals :
    let size : Size := ⟨2, 3, by decide, by decide, by decide⟩
    let first : Write := ⟨1, 2, some (.plain .playX)⟩
    let other : Write := ⟨0, 2, some ⟨.play, 3⟩⟩
    let cleared : Write := ⟨1, 2, none⟩
    let outside : Write := ⟨2, 18446744073709551615, some (.plain .playX)⟩
    let turned : Write := ⟨0, 2, some ⟨.play, 9⟩⟩
    ((empty size).writeAll [first, other, cleared, outside]).set? turned.row turned.col turned.cell
        = none ∧
      (empty size).writeAll [first, other, cleared, outside, turned] =
        (empty size).writeAll [first, other, cleared, outside] ∧
      ((empty size).writeAll [first, other, cleared, outside]).get 1 2 = none ∧
      ((empty size).writeAll [first, other, cleared, outside]).get 0 2 = some ⟨.play, 3⟩ ∧
      (empty size).writeAll [other, first, cleared, outside] =
        (empty size).writeAll [first, other, cleared, outside] := by
  intro size first other cleared outside turned
  obtain ⟨haccept, hrefuse, hget, hswap⟩ := writes_update_map size [first, other, cleared, outside]
  have hturned : ((empty size).writeAll [first, other, cleared, outside]).set? turned.row turned.col
      turned.cell = none := by
    rw [← Option.not_isSome_iff_eq_none, haccept turned]
    rintro ⟨-, -, hparam⟩
    exact absurd (hparam _ rfl) (by decide)
  exact ⟨hturned, hrefuse turned hturned, (hget 1 2).trans (by decide +kernel),
    (hget 0 2).trans (by decide +kernel),
    hswap [] first other [cleared, outside] rfl (.inl (by decide))⟩

end Board

end Tileboard
