import Tileboard.BoardFile.Load
import Tileboard.Proofs.Packing

/-!
The boards that the public operations can lead to, and what holds of all of them.

A run starts from an empty board of some size.  Each operation edits the board or replaces it by
one that is made from tiles, lines, a script, the demonstration or a file; an operation that fails
leaves the board as it was.

1. **One step** — every operation keeps a board well formed (`WellFormed.perform`), one lemma for
   each way a board is changed or made: `WellFormed.set`, `wellFormed_of_pack` and
   `wellFormed_of_check`.

2. **A run** — so every board that can be reached is well formed (`Reachable.wellFormed`): it has
   one cell for each place of its size, and its tiles are valid.
-/

namespace Tileboard

namespace Board

/-- What can be done with the current board. -/
inductive Operation
  | set (row col : Nat) (cell : Cell)
  | ofTokens (tokens : List Token) (size : Size)
  | ofLines (lines : List Line) (size : Size)
  | ofScript (script : String) (size : Size)
  | demo (size : Size)
  | check (file : BoardFile)
  | load (text : String)

/-- The board that a request gives, and the board as it was if the request failed. -/
def keep {ε : Type} (board : Board) : Except ε Board → Board
  | .ok next => next
  | .error _ => board

/-- The current board after an operation. -/
def perform (board : Board) : Operation → Board
  | .set row col cell => board.set row col cell
  | .ofTokens tokens size => board.keep (ofTokens tokens size)
  | .ofLines lines size => board.keep (ofLines lines size)
  | .ofScript script size => board.keep (ofScript script size)
  | .demo size => board.keep (demo size)
  | .check file => board.keep file.check
  | .load text => board.keep (load text)

/-- The boards that some run of operations leads to. -/
inductive Reachable : Board → Prop
  | empty (size : Size) : Reachable (empty size)
  | perform {board : Board} (h : Reachable board) (operation : Operation) :
      Reachable (board.perform operation)

/-! ## Empty boards and single writes -/

theorem wellFormed_empty (size : Size) : (empty size).WellFormed := by
  refine ⟨size_cells_empty size, fun token h => ?_⟩
  have hnone := Array.eq_of_mem_replicate h
  exact absurd hnone (by simp)

/-- A write keeps the tiles valid, because it refuses a tile that is not. -/
theorem WellFormed.set {board : Board} (h : board.WellFormed) (row col : Nat) (cell : Cell) :
    (board.set row col cell).WellFormed := by
  by_cases hok : accepts cell = true ∧ row < board.size.rows ∧ col < board.size.cols
  · refine ⟨by rw [size_cells_set, size_set, h.size_cells], fun token hmem => ?_⟩
    rw [set_of_accepted hok.1 hok.2.1 hok.2.2] at hmem
    -- a tile of the new board was there before, or is the one that was written
    rcases Array.mem_or_eq_of_mem_setIfInBounds hmem with hold | hnew
    · exact h.valid_of_mem token hold
    · have haccepts := hok.1
      rw [← hnew] at haccepts
      exact haccepts
  · rwa [set_of_refused hok]

theorem WellFormed.place {ps : List Placement} :
    ∀ {board : Board}, board.WellFormed → (board.place ps).WellFormed := by
  induction ps with
  | nil => intro board h; exact h
  | cons p ps ih =>
    intro board h
    rw [place_cons]
    exact ih (h.set p.row p.col (some p.token))

/-! ## Boards from lines -/

theorem wellFormed_of_pack {size : Size} {packing : Packing} {lines : List Line} {board : Board}
    (h : pack size packing lines = .ok board) : board.WellFormed := by
  obtain ⟨_, rfl⟩ := pack_eq_ok_iff.mp h
  exact (wellFormed_empty size).place

/-- A script gives a packed board: its own lines, or the demonstration if it is blank. -/
theorem exists_pack_of_ofScript {script : String} {size : Size} {board : Board}
    (h : ofScript script size = .ok board) :
    ∃ packing lines, pack size packing lines = .ok board := by
  unfold ofScript at h
  split at h
  · exact ⟨_, _, h⟩
  · split at h
    · nomatch h
    · exact ⟨_, _, h⟩

theorem wellFormed_of_ofScript {script : String} {size : Size} {board : Board}
    (h : ofScript script size = .ok board) : board.WellFormed := by
  obtain ⟨_, _, hpack⟩ := exists_pack_of_ofScript h
  exact wellFormed_of_pack hpack

/-! ## Boards from files -/

theorem length_of_unevenRow?_eq_none {file : BoardFile} (h : file.unevenRow? = none) :
    ∀ row ∈ file.cells, row.length = file.cols := by
  intro row hrow
  obtain ⟨i, hi⟩ := List.mem_iff_getElem?.mp hrow
  have hmem : (row, i) ∈ file.cells.zipIdx := List.mem_zipIdx_iff_getElem?.mpr hi
  have hsame := List.find?_eq_none.mp h (row, i) hmem
  simpa using hsame

theorem valid_of_invalidTile?_eq_none {file : BoardFile} (h : file.invalidTile? = none) :
    ∀ row ∈ file.cells, ∀ token, some token ∈ row → token.valid = true := by
  intro row hrow token htoken
  obtain ⟨r, hr⟩ := List.mem_iff_getElem?.mp hrow
  obtain ⟨c, hc⟩ := List.mem_iff_getElem?.mp htoken
  have hmem : (some token, r, c) ∈ BoardFile.placed file.cells := by
    refine List.mem_flatMap.mpr ⟨(row, r), List.mem_zipIdx_iff_getElem?.mpr hr, ?_⟩
    exact List.mem_map.mpr ⟨(some token, c), List.mem_zipIdx_iff_getElem?.mpr hc, rfl⟩
  have hnone := List.findSome?_eq_none_iff.mp h _ hmem
  by_contra hv
  simp [hv] at hnone

theorem length_flatten_of_forall {cols : Nat} {cells : List (List Cell)}
    (h : ∀ row ∈ cells, row.length = cols) : cells.flatten.length = cells.length * cols := by
  induction cells with
  | nil => simp
  | cons row rest ih =>
    rw [List.flatten_cons, List.length_append, h row (List.mem_cons_self ..),
      ih fun r hr => h r (List.mem_cons_of_mem row hr), List.length_cons, Nat.succ_mul,
      Nat.add_comm]

/-- A file that passes the check has the shape its header says and valid tiles only, and the board
has its cells row after row. -/
theorem check_eq_ok {file : BoardFile} {board : Board} (h : file.check = .ok board) :
    file.cells.length = file.rows ∧ (∀ row ∈ file.cells, row.length = file.cols) ∧
      (board.size.rows = file.rows ∧ board.size.cols = file.cols) ∧
      (∀ row ∈ file.cells, ∀ token, some token ∈ row → token.valid = true) ∧
      board.cells = file.cells.flatten.toArray := by
  unfold BoardFile.check at h
  split at h
  · nomatch h
  · next hrows =>
    split at h
    · nomatch h
    · next heven =>
      split at h
      · nomatch h
      · next size hsize =>
        split at h
        · nomatch h
        · next hvalid =>
          injection h with h
          subst h
          exact ⟨Decidable.not_not.mp hrows, length_of_unevenRow?_eq_none heven,
            Size.make_eq_ok_iff.mp hsize, valid_of_invalidTile?_eq_none hvalid, rfl⟩

theorem wellFormed_of_check {file : BoardFile} {board : Board} (h : file.check = .ok board) :
    board.WellFormed := by
  obtain ⟨hlength, heven, ⟨hr, hc⟩, hvalid, hcells⟩ := check_eq_ok h
  constructor
  · rw [hcells, List.size_toArray, length_flatten_of_forall heven, hlength, Size.area, hr, hc]
  · intro token hmem
    rw [hcells, List.mem_toArray, List.mem_flatten] at hmem
    obtain ⟨row, hrow, htoken⟩ := hmem
    exact hvalid row hrow token htoken

theorem wellFormed_of_load {text : String} {board : Board} (h : load text = .ok board) :
    board.WellFormed := by
  unfold load at h
  split at h
  · nomatch h
  · split at h
    · nomatch h
    · next hcheck =>
      injection h with h
      subst h
      exact wellFormed_of_check hcheck

/-! ## Runs -/

/-- A request keeps the board well formed if every board it gives is. -/
theorem WellFormed.keep {ε : Type} {board : Board} (hboard : board.WellFormed)
    {result : Except ε Board} (h : ∀ next, result = .ok next → next.WellFormed) :
    (board.keep result).WellFormed := by
  cases result with
  | ok next => exact h next rfl
  | error _ => exact hboard

/-- **One step keeps a board well formed**, one case for each operation. -/
theorem WellFormed.perform {board : Board} (h : board.WellFormed) (operation : Operation) :
    (board.perform operation).WellFormed := by
  cases operation with
  | set row col cell => exact h.set row col cell
  | ofTokens tokens size => exact h.keep fun next hnext => wellFormed_of_pack hnext
  | ofLines lines size => exact h.keep fun next hnext => wellFormed_of_pack hnext
  | ofScript script size => exact h.keep fun next hnext => wellFormed_of_ofScript hnext
  | demo size => exact h.keep fun next hnext => wellFormed_of_pack hnext
  | check file => exact h.keep fun next hnext => wellFormed_of_check hnext
  | load text => exact h.keep fun next hnext => wellFormed_of_load hnext

/-- **Every board that can be reached is well formed.** -/
theorem Reachable.wellFormed {board : Board} (h : Reachable board) : board.WellFormed := by
  induction h with
  | empty size => exact wellFormed_empty size
  | perform _ operation ih => exact ih.perform operation

/-! ## The tiles of a well-formed board -/

theorem WellFormed.valid_of_mem_tokens {board : Board} (h : board.WellFormed) :
    ∀ token ∈ board.tokens, token.valid = true := by
  intro token htoken
  obtain ⟨cell, hcell, hsome⟩ := List.mem_filterMap.mp htoken
  rw [id_eq] at hsome
  subst hsome
  exact h.valid_of_mem token (Array.mem_def.mpr hcell)

/-- There are no more tiles than cells. -/
theorem WellFormed.length_tokens_le {board : Board} (h : board.WellFormed) :
    board.tokens.length ≤ board.size.area := by
  rw [← h.size_cells, tokens, ← Array.length_toList]
  exact List.length_filterMap_le id board.cells.toList

end Board

end Tileboard
