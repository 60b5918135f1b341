import Tileboard.Lanes
import Tileboard.Proofs.BoardCells
import Tileboard.Proofs.CursorWalk
import Tileboard.Proofs.ScriptLines

/-!
Packing a board: when it succeeds, and what the board then holds.

A board is filled from empty with the tiles of a layout.  The walk of the cursor says which cells
these are (`Layout.orderly_ofLines`), and the theory of cells says what filling them leaves behind
(`placements_place`).  Put together:

1. **Success** — lines become a board exactly if there is a cell for each of them, whatever the
   packing that is chosen for them (`ofLines_of_length_le`, `ofLines_of_lt_length`).

2. **Outcome of a script** — `ofScript_outcome`: the first line that is no command decides the
   error even if the script is too long as well, and otherwise its length alone decides.

3. **Content** — `placements_of_pack`: the tiles of the board are the valid ones among those of the
   lines, in the cells that the layout gave them.  `ofTokens_keeps_tiles` says so for sequences of
   tiles and for scripts, and that the board's own scripts do not depend on its size.
-/

namespace Tileboard

namespace Board

variable {size : Size} {packing : Packing} {lines : List Line} {board : Board}

/-! ## Success -/

theorem pack_of_isSome (h : (Layout.ofLines size packing lines).rows?.isSome = true) :
    pack size packing lines =
      .ok ((empty size).place (Layout.ofLines size packing lines).placed) := by
  obtain ⟨rows, hrows⟩ := Option.isSome_iff_exists.mp h
  simp only [pack, hrows]

theorem pack_of_isNone (h : ¬ (Layout.ofLines size packing lines).rows?.isSome = true) :
    pack size packing lines = .error (.overflow size.rows) := by
  rw [Option.not_isSome_iff_eq_none] at h
  simp only [pack, h]

/-- A packed board holds what the layout gives, and the layout has reached the end. -/
theorem pack_eq_ok_iff : pack size packing lines = .ok board ↔
    (Layout.ofLines size packing lines).rows?.isSome = true ∧
      (empty size).place (Layout.ofLines size packing lines).placed = board := by
  by_cases h : (Layout.ofLines size packing lines).rows?.isSome = true
  · rw [pack_of_isSome h]
    exact ⟨fun he => ⟨h, Except.ok.inj he⟩, fun he => by rw [he.2]⟩
  · rw [pack_of_isNone h]
    exact ⟨fun he => (nomatch he), fun he => absurd he.1 h⟩

/-- **Lines become a board if there is a cell for each.**  Thread rows are used only where they
reach the end, and dense packing reaches it then. -/
theorem ofLines_of_length_le (h : lines.length ≤ size.area) :
    ∃ board, ofLines lines size = .ok board :=
  ⟨_, pack_of_isSome ((Layout.isSome_rows?_chosen size lines).mpr h)⟩

/-- **More lines than cells are refused**, whatever the packing. -/
theorem pack_of_lt_length (packing : Packing) (h : size.area < lines.length) :
    pack size packing lines = .error (.overflow size.rows) :=
  pack_of_isNone fun hs => absurd (Layout.length_le_of_isSome hs) (Nat.not_le.mpr h)

theorem ofLines_of_lt_length (h : size.area < lines.length) :
    ofLines lines size = .error (.overflow size.rows) :=
  pack_of_lt_length _ h

theorem exists_ofLines_iff : (∃ board, ofLines lines size = .ok board) ↔
    lines.length ≤ size.area := by
  refine ⟨fun ⟨board, h⟩ => ?_, ofLines_of_length_le⟩
  exact Layout.length_le_of_isSome (pack_eq_ok_iff.mp h).1

theorem exists_pack_dense_iff : (∃ board, pack size .dense lines = .ok board) ↔
    lines.length ≤ size.area := by
  refine ⟨fun ⟨board, h⟩ => ?_, fun h => ?_⟩
  · exact Layout.length_le_of_isSome (pack_eq_ok_iff.mp h).1
  · exact ⟨_, pack_of_isSome (Layout.isSome_rows?_of_length_le h)⟩

theorem ofScript_of_read {script : String} (hb : Script.isBlank script = false)
    (h : Script.read script = .ok lines) : ofScript script size = ofLines lines size := by
  simp only [ofScript, hb, h, Bool.false_eq_true, if_false]

theorem ofScript_of_read_error {script : String} {error : ScriptError}
    (hb : Script.isBlank script = false) (h : Script.read script = .error error) :
    ofScript script size = .error error := by
  simp only [ofScript, hb, h, Bool.false_eq_true, if_false]

/-- **When a script becomes a board, and which error it gives otherwise.**  For a script that is
not blank, on any size:

* if some line is no command, the error is that of the first such line, whatever the length;
* if all lines are commands, there is a board exactly if there is a cell for each, and otherwise
  the error names the rows of the board.

So a script fits whenever dense packing alone would fit it, and a sequence of tiles becomes a board
exactly if there is a cell for each tile. -/
theorem ofScript_outcome (size : Size) :
    (∀ script, Script.isBlank script = false →
      (∀ before command after reason, Script.commands script = before ++ command :: after →
        (∀ c ∈ before, ∃ token, Grammar.readLine c = .ok token) →
        Grammar.readLine command = .error reason →
        ofScript script size = .error (.line (before.length + 1) reason)) ∧
      ((∀ c ∈ Script.commands script, ∃ token, Grammar.readLine c = .ok token) →
        ((∃ board, ofScript script size = .ok board) ↔
          (Script.commands script).length ≤ size.area) ∧
        (size.area < (Script.commands script).length →
          ofScript script size = .error (.overflow size.rows)))) ∧
    (∀ lines, (∃ board, ofLines lines size = .ok board) ↔
      ∃ board, pack size .dense lines = .ok board) ∧
    (∀ tokens, (∃ board, ofTokens tokens size = .ok board) ↔ tokens.length ≤ size.area) := by
  refine ⟨fun script hb => ⟨?_, ?_⟩, fun lines => ?_, fun tokens => ?_⟩
  · intro before command after reason hcommands hbefore hcommand
    refine ofScript_of_read_error hb ?_
    rw [Script.read, hcommands, Script.readFrom_of_first_error hbefore hcommand, Nat.add_comm]
  · intro hall
    -- every line is a command, so the script is read, one line for each command
    obtain ⟨tokens, htokens⟩ := Script.exists_tokens_of_forall hall
    have hread : Script.read script = .ok (Script.ofTokens tokens) :=
      Script.read_eq_ok_iff.mpr ⟨tokens, htokens, rfl⟩
    have hlen : (Script.ofTokens tokens).length = (Script.commands script).length := by
      rw [Script.length_ofTokens, ← List.length_map (f := (Except.ok : Token → Except LineError _)),
        ← htokens, List.length_map]
    rw [ofScript_of_read hb hread, ← hlen]
    exact ⟨exists_ofLines_iff, ofLines_of_lt_length⟩
  · rw [exists_ofLines_iff, exists_pack_dense_iff]
  · rw [ofTokens, exists_ofLines_iff, Script.length_ofTokens]

/-- A script whose third line is no command, and which is too long for a board of one cell, gives
the error of that line; its first two lines alone are too many for that board, and fit two cells. -/
theorem ofScript_outcome_three_lines :
    ofScript "play 1\n\nElse\njump" ⟨1, 1, by decide, by decide, by decide⟩
      = .error (.line 3 (.unknownCommand "jump")) ∧
    ofScript "play 1\n\nElse" ⟨1, 1, by decide, by decide, by decide⟩ = .error (.overflow 1) ∧
    ∃ board, ofScript "play 1\n\nElse" ⟨2, 1, by decide, by decide, by decide⟩ = .ok board := by
  have hplay : Grammar.readLine "play 1" = .ok (.plain .play) := by decide +kernel
  have helse : Grammar.readLine "else" = .ok (.plain .otherwise) := by decide +kernel
  have htwo : Script.commands "play 1\n\nElse" = ["play 1", "else"] := by decide +kernel
  have hall : ∀ c ∈ Script.commands "play 1\n\nElse", ∃ token, Grammar.readLine c = .ok token := by
    rw [htwo]
    simp only [List.mem_cons, List.not_mem_nil, or_false]
    rintro c (rfl | rfl)
    · exact ⟨_, hplay⟩
    · exact ⟨_, helse⟩
  refine ⟨?_, ?_, ?_⟩
  · refine ((ofScript_outcome _).1 "play 1\n\nElse\njump" (by decide +kernel)).1
      ["play 1", "else"] "jump" [] _ (by decide +kernel) ?_ (by decide +kernel)
    rwa [← htwo]
  · exact (((ofScript_outcome _).1 "play 1\n\nElse" (by decide +kernel)).2 hall).2
      (by rw [htwo]; decide)
  · exact (((ofScript_outcome _).1 "play 1\n\nElse" (by decide +kernel)).2 hall).1.mpr
      (by rw [htwo]; decide)

/-! ## Content -/

theorem size_of_pack (h : pack size packing lines = .ok board) : board.size = size := by
  obtain ⟨_, rfl⟩ := pack_eq_ok_iff.mp h
  exact size_place _ _

/-- **The tiles of a packed board** are the valid ones of its layout, in their cells. -/
theorem placements_of_pack (h : pack size packing lines = .ok board) :
    board.placements = (Layout.ofLines size packing lines).placed.filter (·.token.valid) := by
  obtain ⟨_, rfl⟩ := pack_eq_ok_iff.mp h
  exact placements_place (Layout.orderly_ofLines size packing lines)

/-- Each cell of the layout holds its tile, and is empty where that is not valid. -/
theorem get_of_pack (h : pack size packing lines = .ok board) :
    ∀ p ∈ (Layout.ofLines size packing lines).placed,
      board.get p.row p.col = if p.token.valid = true then some p.token else none := by
  obtain ⟨_, rfl⟩ := pack_eq_ok_iff.mp h
  intro p hp
  rw [get_place_of_mem (size_cells_empty size) (Layout.orderly_ofLines size packing lines) p hp,
    get_empty_board]

/-- A packed board lists the valid tiles of the lines in their order. -/
theorem tokens_of_pack (h : pack size packing lines = .ok board) :
    board.tokens = (lines.map (·.token)).filter Token.valid := by
  have hall := Layout.map_token_of_isSome (pack_eq_ok_iff.mp h).1
  rw [← placements_map_token, placements_of_pack h, ← hall, List.filter_map]
  rfl

/-- **A script that is read becomes a board of its own tiles**, all of them. -/
theorem tokens_of_ofScript {script : String} (hb : Script.isBlank script = false)
    (hread : Script.read script = .ok lines) (h : ofScript script size = .ok board) :
    board.tokens = lines.map (·.token) := by
  obtain ⟨tokens, htokens, rfl⟩ := Script.read_eq_ok_iff.mp hread
  -- the grammar gives valid tiles only, so none is left out
  rw [ofScript_of_read hb hread] at h
  rw [tokens_of_pack h, Script.map_token_ofTokens]
  exact List.filter_eq_self.mpr (Script.valid_of_map_readLine htokens)

/-- The scripts of a board depend on nothing but the sequence of its tiles. -/
theorem scripts_eq_of_tokens_eq {board' : Board} (h : board.tokens = board'.tokens) :
    board.scripts = board'.scripts := by
  rw [scripts, scripts, lanes, lanes, h]

/-- **Placing loses, repeats and reorders nothing**, whatever the size and the packing.

* A board of a sequence of tiles lists the valid ones in their order; the layout gives a cell to
  each tile of the sequence, and that cell holds the tile if it is valid and is empty otherwise.
* A script that is read gives valid tiles only, so all of them are on its board, and the board's
  own scripts are the same on every size that has room for them. -/
theorem ofTokens_keeps_tiles :
    (∀ tokens size board, ofTokens tokens size = .ok board →
      (Layout.chosen size (Script.ofTokens tokens)).placed.map (·.token) = tokens ∧
      board.tokens = tokens.filter Token.valid ∧
      board.placements =
        (Layout.chosen size (Script.ofTokens tokens)).placed.filter (·.token.valid) ∧
      ∀ p ∈ (Layout.chosen size (Script.ofTokens tokens)).placed,
        board.get p.row p.col = if p.token.valid = true then some p.token else none) ∧
    (∀ script lines, Script.isBlank script = false → Script.read script = .ok lines →
      (∀ line ∈ lines, line.token.valid = true) ∧
      (∀ size board, ofScript script size = .ok board → board.tokens = lines.map (·.token)) ∧
      ∀ size size' board board', ofScript script size = .ok board →
        ofScript script size' = .ok board' → board.scripts = board'.scripts) := by
  refine ⟨fun tokens size board h => ⟨?_, ?_, ?_, ?_⟩, fun script lines hb hread => ⟨?_, ?_, ?_⟩⟩
  · have hall := Layout.map_token_of_isSome (pack_eq_ok_iff.mp h).1
    rwa [Script.map_token_ofTokens] at hall
  · have htokens := tokens_of_pack h
    rwa [Script.map_token_ofTokens] at htokens
  · exact placements_of_pack h
  · exact get_of_pack h
  · obtain ⟨tokens, htokens, rfl⟩ := Script.read_eq_ok_iff.mp hread
    intro line hline
    refine Script.valid_of_map_readLine htokens line.token ?_
    have hmem := List.mem_map_of_mem (f := (·.token)) hline
    rwa [Script.map_token_ofTokens] at hmem
  · intro size board h
    exact tokens_of_ofScript hb hread h
  · intro size size' board board' h h'
    refine scripts_eq_of_tokens_eq ?_
    rw [tokens_of_ofScript hb hread h, tokens_of_ofScript hb hread h']

/-- On a board of two rows, a tile that is not valid leaves the second cell empty and the marker
starts the second row; and a script gives the same two commands in one row and in one column. -/
theorem ofTokens_keeps_tiles_on_two_rows :
    (∃ board, ofTokens [.plain .play, ⟨.otherwise, 2⟩, .plain .thread2, ⟨.play, 2⟩]
        ⟨2, 3, by decide, by decide, by decide⟩ = .ok board ∧
      board.tokens = [.plain .play, .plain .thread2, ⟨.play, 2⟩] ∧
      board.get 0 1 = none ∧ board.get 1 0 = some (.plain .thread2)) ∧
    (∃ board board',
      ofScript "Thread 2\n\nplay 3" ⟨1, 2, by decide, by decide, by decide⟩ = .ok board ∧
      ofScript "Thread 2\n\nplay 3" ⟨2, 1, by decide, by decide, by decide⟩ = .ok board' ∧
      board.tokens = [.plain .thread2, ⟨.play, 2⟩] ∧ board.scripts = board'.scripts) := by
  refine ⟨?_, ?_⟩
  · have hfit : (Script.ofTokens
        [.plain .play, ⟨.otherwise, 2⟩, .plain .thread2, ⟨.play, 2⟩]).length ≤
        Size.area ⟨2, 3, by decide, by decide, by decide⟩ := by decide
    obtain ⟨board, hboard⟩ := ofLines_of_length_le hfit
    obtain ⟨-, htokens, -, hcells⟩ := ofTokens_keeps_tiles.1 _ _ _ hboard
    exact ⟨board, hboard, htokens, hcells ⟨0, 1, ⟨.otherwise, 2⟩⟩ (by decide),
      hcells ⟨1, 0, .plain .thread2⟩ (by decide)⟩
  · have hb : Script.isBlank "Thread 2\n\nplay 3" = false := by decide +kernel
    have hread : Script.read "Thread 2\n\nplay 3" =
        .ok (Script.ofTokens [.plain .thread2, ⟨.play, 2⟩]) := by decide +kernel
    obtain ⟨-, htokens, hscripts⟩ := ofTokens_keeps_tiles.2 _ _ hb hread
    have hfit : (Script.ofTokens [.plain .thread2, ⟨.play, 2⟩]).length ≤ 2 := by decide
    have hrow : ∃ board, ofLines _ ⟨1, 2, by decide, by decide, by decide⟩ = .ok board :=
      ofLines_of_length_le hfit
    have hcol : ∃ board, ofLines _ ⟨2, 1, by decide, by decide, by decide⟩ = .ok board :=
      ofLines_of_length_le hfit
    obtain ⟨board, hboard⟩ := hrow
    obtain ⟨board', hboard'⟩ := hcol
    rw [← ofScript_of_read hb hread] at hboard hboard'
    exact ⟨board, board', hboard, hboard', htokens _ _ hboard, hscripts _ _ _ _ hboard hboard'⟩

end Board

end Tileboard
