import Tileboard.Labels
import Tileboard.Lanes
import Tileboard.Proofs.FileRoundTrip
import Tileboard.Proofs.NearestMarker

/-!
What is written for a board is all there: no view of a board that can be reached relies on a default.

The views that run are total.  A row is cut out of the array of cells and would come out short if the
array ended in it, and a command whose number is missing would be written with the number 1.  The
strict views give nothing at all in these cases.

1. **Strict views** — `Token.strictText?`, `Board.strictRow?` and what is built from them:
   `Board.strictScripts?` and `Board.strictLabels?`.

2. **The invariant** — on a board that can be reached, after any operations, the strict views give
   what the total ones give (`reachable_invariant`), because the board has a cell for each place and
   every rotation is one that its kind has.
-/

namespace Tileboard

/-! ## Strict views -/

/-- A word of the tile's command; none if it is the number and the rotation stands for none. -/
def Token.strictWord? (token : Token) : Word → Option String
  | .literal text => some text
  | .number => token.number?

/-- The text of the tile; none if a word of its command is missing. -/
def Token.strictText? (token : Token) : Option String :=
  (token.kind.phrase.mapM token.strictWord?).map (" ".intercalate ·)

/-- The lanes with a function applied to all that is in them; none if it gives none for anything. -/
def Lanes.mapM? {α β : Type} (f : α → Option β) (lanes : Lanes α) : Option (Lanes β) := do
  return ⟨← lanes.first.mapM f, ← lanes.second.mapM f, ← lanes.third.mapM f⟩

namespace Board

/-- The cells of a row, each read at its own index; none if one of them is not in the array. -/
def strictRow? (board : Board) (row : Nat) : Option (List Cell) :=
  (board.index? row 0).bind fun start =>
    (List.range' start board.size.cols).mapM fun i => board.cells[i]?

/-- The labels of the cells, row by row; none if a cell is not in the array. -/
def strictLabels? (board : Board) : Option (List (List String)) :=
  (List.range board.size.rows).mapM fun row =>
    (board.strictRow? row).map fun cells => cells.map Cell.label

/-- The commands of the board by thread; none if one of them lacks its number. -/
def strictScripts? (board : Board) : Option (Lanes String) :=
  board.lanes.mapM? Token.strictText?

end Board

/-! ## Rows -/

theorem mapM_eq_some_map {α β : Type} {f : α → Option β} {g : α → β} {xs : List α}
    (h : ∀ a ∈ xs, f a = some (g a)) : xs.mapM f = some (xs.map g) := by
  induction xs with
  | nil => rfl
  | cons a xs ih =>
    have hrest := ih fun b hb => h b (List.mem_cons_of_mem a hb)
    rw [List.mapM_cons, h a (List.mem_cons_self ..), hrest]
    rfl

/-- Entries that are read one by one make up a piece of the list, if the list is long enough. -/
theorem mapM_getElem?_range' {α : Type} (xs : List α) {start width : Nat}
    (h : start + width ≤ xs.length) :
    (List.range' start width).mapM (fun i => xs[i]?) = some ((xs.drop start).take width) := by
  induction width generalizing start with
  | zero => rfl
  | succ width ih =>
    have hstart : start < xs.length := by omega
    have hrest : (List.range' (start + 1) width).mapM (fun i => xs[i]?) =
        some ((xs.drop (start + 1)).take width) := ih (by omega)
    rw [List.range'_succ, List.mapM_cons, List.getElem?_eq_getElem hstart, hrest,
      List.drop_eq_getElem_cons hstart]
    rfl

namespace Board

variable {board : Board}

/-- The indices of a row are those of cells. -/
theorem WellFormed.index_row_le (h : board.WellFormed) {row : Nat} (hrow : row < board.size.rows) :
    row * board.size.cols + board.size.cols ≤ board.cells.toList.length := by
  rw [h.length_cells, ← Nat.succ_mul]
  exact Nat.mul_le_mul_right board.size.cols hrow

theorem WellFormed.strictRow?_eq (h : board.WellFormed) {row : Nat} (hrow : row < board.size.rows) :
    board.strictRow? row =
      some ((board.cells.toList.drop (row * board.size.cols)).take board.size.cols) := by
  rw [strictRow?, index?_of_lt hrow board.size.cols_pos, Option.bind_some, Size.index, Nat.add_zero]
  simp only [← Array.getElem?_toList]
  exact mapM_getElem?_range' _ (h.index_row_le hrow)

/-- **No label is that of a cell outside the array.** -/
theorem WellFormed.strictLabels?_eq (h : board.WellFormed) :
    board.strictLabels? = some board.labels := by
  rw [labels, rows_eq, List.map_map]
  refine mapM_eq_some_map fun row hrow => ?_
  rw [h.strictRow?_eq (List.mem_range.mp hrow)]
  rfl

end Board

/-! ## Commands -/

/-- A kind whose command has a number has only rotations that stand for one. -/
theorem Token.number?_of_valid {token : Token} (h : token.valid = true)
    (hnumber : Word.number ∈ token.kind.phrase) : token.number? = some (token.number?.getD "1") := by
  have htakes : token.kind.takesNumber = true := by simpa [Kind.takesNumber] using hnumber
  have hparam : token.param ≤ 7 := by simpa [valid, Kind.maxParam, htakes] using h
  have hlength : token.param < numbers.length := Nat.lt_succ_of_le hparam
  rw [number?, if_pos htakes, List.getElem?_eq_getElem hlength]
  rfl

/-- **The text of a valid tile does without the default.** -/
theorem Token.strictText?_eq {token : Token} (h : token.valid = true) :
    token.strictText? = some token.text := by
  have hwords : token.kind.phrase.mapM token.strictWord? = some token.words := by
    refine mapM_eq_some_map fun word hword => ?_
    cases word with
    | literal text => rfl
    | number => exact number?_of_valid h hword
  rw [strictText?, hwords]
  rfl

theorem Lanes.mapM?_eq {α β : Type} {f : α → Option β} {g : α → β} {lanes : Lanes α}
    (h : ∀ lane, ∀ a ∈ lanes.get lane, f a = some (g a)) : lanes.mapM? f = some (lanes.map g) := by
  have hfirst : lanes.first.mapM f = some (lanes.first.map g) := mapM_eq_some_map (h .first)
  have hsecond : lanes.second.mapM f = some (lanes.second.map g) := mapM_eq_some_map (h .second)
  have hthird : lanes.third.mapM f = some (lanes.third.map g) := mapM_eq_some_map (h .third)
  rw [mapM?, hfirst, hsecond, hthird]
  rfl

theorem Lanes.mem_flatten_of_mem_get {α : Type} {lanes : Lanes α} {lane : Lane} {a : α}
    (h : a ∈ lanes.get lane) : a ∈ lanes.flatten := by
  rw [flatten, List.mem_append, List.mem_append]
  cases lane with
  | first => exact Or.inl (Or.inl h)
  | second => exact Or.inl (Or.inr h)
  | third => exact Or.inr h

namespace Board

variable {board : Board}

/-- **No command is written with a number that its tile does not have.** -/
theorem WellFormed.strictScripts?_eq (h : board.WellFormed) :
    board.strictScripts? = some board.scripts := by
  refine Lanes.mapM?_eq fun lane token htoken => Token.strictText?_eq ?_
  refine h.valid_of_mem_tokens token ((Lanes.flatten_perm board.tokens).subset ?_)
  exact Lanes.mem_flatten_of_mem_get htoken

/-! ## The invariant -/

/-- **What holds of every board that can be reached**, after any writes, placed tiles and lines,
scripts, demonstrations, checked files and loaded texts, whether they succeeded or not.

* It has between 1 and 4096 places, exactly one cell for each, and only tiles with a rotation of
  their kind.
* So its labels are read from its own cells, and its scripts from the numbers of its own tiles. -/
theorem reachable_invariant (h : Reachable board) :
    (1 ≤ board.size.rows * board.size.cols ∧ board.size.rows * board.size.cols ≤ 4096) ∧
    board.cells.size = board.size.rows * board.size.cols ∧
    (∀ token, some token ∈ board.cells → token.param ≤ token.kind.maxParam) ∧
    board.strictLabels? = some board.labels ∧
    board.strictScripts? = some board.scripts := by
  have hwf := h.wellFormed
  refine ⟨⟨board.size.area_pos, board.size.area_le⟩, hwf.size_cells, fun token htoken => ?_,
    hwf.strictLabels?_eq, hwf.strictScripts?_eq⟩
  have hvalid := hwf.valid_of_mem token htoken
  simpa [Token.valid] using hvalid

/-- A board that is left by a write outside it, a placement with a rotation that no tile has, a text
that is no file and a refused tile: the cell of the bad rotation is empty, and the marker starts the
second row. -/
theorem reachable_invariant_of_refusals :
    ∃ board, board = ((((empty .standard).perform (.set 9 0 (some (.plain .play)))).perform
        (.ofTokens [⟨.play, 9⟩, .plain .thread2, ⟨.loop, 7⟩] ⟨2, 2, by decide, by decide, by decide⟩)
        ).perform (.load "\x7b")).perform (.set 1 1 (some ⟨.otherwise, 1⟩)) ∧
      board.cells.size = 2 * 2 ∧
      board.strictLabels? = some [[".", "."], ["Thread 2", "Loop 8"]] ∧
      board.strictScripts? = some ⟨[], ["thread 2", "loop 8 times"], []⟩ := by
  have hreach := ((((Reachable.empty .standard).perform (.set 9 0 (some (.plain .play)))).perform
    (.ofTokens [⟨.play, 9⟩, .plain .thread2, ⟨.loop, 7⟩] ⟨2, 2, by decide, by decide, by decide⟩)
    ).perform (.load "\x7b")).perform (.set 1 1 (some ⟨.otherwise, 1⟩))
  obtain ⟨-, hcells, -, hlabels, hscripts⟩ := reachable_invariant hreach
  exact ⟨_, rfl, hcells, hlabels.trans (by decide +kernel), hscripts.trans (by decide +kernel)⟩

end Board

end Tileboard
