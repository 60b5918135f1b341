import Tileboard.Proofs.CommandText
import Tileboard.Proofs.NearestMarker
import Tileboard.Proofs.PackingsAgree
import Tileboard.Proofs.Reachable

/-!
Writing a board as a script and making a board of that script again.

The script of a board lists its tiles lane by lane, so the new board holds the tiles grouped by
lane (`ofScript_flatText`): the text is read as the tiles it was written for
(`exists_ofScript_text`), grouping loses none of them, and they fit because they came from a board
of the same size.

1. **Once is enough** — `regroup_reachable`: the new board has the lanes of the old one, and its own
   script gives it again.

2. **Lossless round trips** — `regroup_ofScript_iff`: the board of a script comes back from its own
   script exactly if the lanes of its tiles never step back.  Equal boards have equal tiles in
   reading order, and grouped tiles have their lanes in order; conversely tiles whose lanes are in
   order are not moved, and the same tiles on the same size make the same board
   (`ofTokens_tokens_of_ofScript`), also where they are the demonstration (`demo_eq_ofTokens`).
-/

namespace Tileboard

namespace Board

variable {board : Board} {size : Size}

/-! ## The board of a board's own script -/

theorem flatText_scripts (board : Board) :
    board.scripts.flatText = Lanes.joinLines (board.lanes.flatten.map Token.text) := by
  simp [scripts, Lanes.flatText, Lanes.flatten, Lanes.map]

/-- The tiles of a board, grouped by lane. -/
theorem flatten_lanes (board : Board) : board.lanes.flatten =
    Lanes.within .first board.tokens ++ Lanes.within .second board.tokens ++
      Lanes.within .third board.tokens :=
  Lanes.flatten_ofTokens board.tokens

theorem lanes_flatten_perm (board : Board) : board.lanes.flatten.Perm board.tokens :=
  Lanes.flatten_perm board.tokens

/-- **A script that is written for valid tiles makes the board of these tiles**, on any size. -/
theorem ofScript_text {tokens : List Token} (hv : ∀ token ∈ tokens, token.valid = true)
    (hne : tokens ≠ []) (size : Size) :
    ofScript (Lanes.joinLines (tokens.map Token.text)) size = ofTokens tokens size := by
  rw [ofScript_of_read (Script.isBlank_joinLines_text hne) (Script.read_joinLines_text hv)]
  rfl

/-- Grouping keeps the tiles valid, and at least one if there was one. -/
theorem valid_of_mem_flatten_lanes (hv : ∀ token ∈ board.tokens, token.valid = true) :
    ∀ token ∈ board.lanes.flatten, token.valid = true :=
  fun token htoken => hv token (board.lanes_flatten_perm.subset htoken)

theorem flatten_lanes_ne_nil (hne : board.tokens ≠ []) : board.lanes.flatten ≠ [] := by
  intro hnil
  have hperm := board.lanes_flatten_perm
  rw [hnil] at hperm
  exact hne hperm.nil_eq.symm

/-- **The script of a board makes a board of its tiles grouped by lane**, on any size. -/
theorem ofScript_flatText (hv : ∀ token ∈ board.tokens, token.valid = true)
    (hne : board.tokens ≠ []) (size : Size) :
    ofScript board.scripts.flatText size = ofTokens board.lanes.flatten size := by
  rw [flatText_scripts, ofScript_text (valid_of_mem_flatten_lanes hv) (flatten_lanes_ne_nil hne)]

/-- A board of valid tiles holds them all. -/
theorem tokens_of_ofTokens {tokens : List Token} (hv : ∀ token ∈ tokens, token.valid = true)
    (h : ofTokens tokens size = .ok board) : board.tokens = tokens := by
  have htokens := tokens_of_pack h
  rw [Script.map_token_ofTokens] at htokens
  rw [htokens]
  exact List.filter_eq_self.mpr hv

/-- **The board of a script that is written for valid tiles exists** on every size that has a cell
for each tile, and it holds these tiles. -/
theorem exists_ofScript_text {tokens : List Token} (hv : ∀ token ∈ tokens, token.valid = true)
    (hne : tokens ≠ []) (hfit : tokens.length ≤ size.area) :
    ∃ board, ofScript (Lanes.joinLines (tokens.map Token.text)) size = .ok board ∧
      board.size = size ∧ board.tokens = tokens := by
  have hlines : (Script.ofTokens tokens).length ≤ size.area := by rwa [Script.length_ofTokens]
  obtain ⟨board, hboard⟩ := ofLines_of_length_le hlines
  refine ⟨board, ?_, size_of_pack hboard, tokens_of_ofTokens hv hboard⟩
  rw [ofScript_text hv hne]
  exact hboard

/-- **The board of a board's own script exists** on every size that has a cell for each tile, and it
holds the tiles grouped by lane: grouping loses and repeats nothing. -/
theorem exists_regrouped (hv : ∀ token ∈ board.tokens, token.valid = true)
    (hne : board.tokens ≠ []) (hfit : board.tokens.length ≤ size.area) :
    ∃ board', ofScript board.scripts.flatText size = .ok board' ∧ board'.size = size ∧
      board'.tokens = board.lanes.flatten := by
  rw [flatText_scripts]
  refine exists_ofScript_text (valid_of_mem_flatten_lanes hv) (flatten_lanes_ne_nil hne) ?_
  rwa [board.lanes_flatten_perm.length_eq]

/-- **Writing a board as a script and reading it again settles after one round.**  For every board
that can be reached and holds a tile, whatever cells are empty, the board of its script exists and
has the same size; it lists the tiles of the first lane, then those of the second, then those of the
third, each in the old order; it has the same scripts lane by lane; and its own script makes the
same board again. -/
theorem regroup_reachable (h : Reachable board) (hne : board.tokens ≠ []) :
    ∃ board', ofScript board.scripts.flatText board.size = .ok board' ∧
      board'.size = board.size ∧
      board'.tokens = Lanes.within .first board.tokens ++ Lanes.within .second board.tokens ++
        Lanes.within .third board.tokens ∧
      board'.scripts = board.scripts ∧
      ofScript board'.scripts.flatText board.size = .ok board' := by
  have hwf := h.wellFormed
  obtain ⟨board', hscript, hsize, htokens⟩ :=
    exists_regrouped hwf.valid_of_mem_tokens hne hwf.length_tokens_le
  have hscripts : board'.scripts = board.scripts := by
    rw [scripts, scripts, lanes, htokens, lanes, Lanes.ofTokens_flatten]
  refine ⟨board', hscript, hsize, ?_, hscripts, ?_⟩
  · rw [htokens, flatten_lanes]
  · rw [hscripts]
    exact hscript

/-- A board that was edited cell by cell, with holes and with its lanes out of order. -/
theorem regroup_reachable_of_edits :
    ∃ board', ofScript ((((empty .compact).set 0 1 (some (.plain .playX))).set 1 0
        (some (.plain .thread2))).set 2 2 (some (.plain .thread1))).scripts.flatText .compact
        = .ok board' ∧
      board'.tokens = [.plain .playX, .plain .thread1, .plain .thread2] := by
  have hreach := (((Reachable.empty .compact).perform (.set 0 1 (some (.plain .playX)))).perform
    (.set 1 0 (some (.plain .thread2)))).perform (.set 2 2 (some (.plain .thread1)))
  obtain ⟨board', hscript, -, htokens, -⟩ := regroup_reachable hreach (by decide)
  exact ⟨board', hscript, htokens.trans (by decide)⟩

/-! ## Lossless round trips -/

/-- **The board of a script is the board of its own tiles**, which are valid, and there is at least
one. -/
theorem ofTokens_tokens_of_ofScript {script : String} (h : ofScript script size = .ok board) :
    ofTokens board.tokens size = .ok board ∧ board.tokens ≠ [] ∧
      ∀ token ∈ board.tokens, token.valid = true := by
  by_cases hb : Script.isBlank script = true
  · -- a blank script: the demonstration
    have hdemo : ofTokens demoProgram size = .ok board := by
      rw [← demo_eq_ofTokens]
      simpa only [ofScript, hb, if_true] using h
    have hvalid : ∀ token ∈ demoProgram, token.valid = true := by decide
    rw [tokens_of_ofTokens hvalid hdemo]
    exact ⟨hdemo, by decide, hvalid⟩
  · have hb' : Script.isBlank script = false := by simpa using hb
    cases hread : Script.read script with
    | error error =>
      rw [ofScript_of_read_error hb' hread] at h
      cases h
    | ok lines =>
      obtain ⟨tokens, htokens, rfl⟩ := Script.read_eq_ok_iff.mp hread
      have hvalid := Script.valid_of_map_readLine htokens
      rw [ofScript_of_read hb' hread] at h
      rw [tokens_of_ofTokens hvalid h]
      refine ⟨h, ?_, hvalid⟩
      -- without tiles there were no commands, and the script would be blank
      rintro rfl
      exact hb (Script.commands_eq_nil_iff.mp (List.map_eq_nil_iff.mp htokens))

/-- **When the board of a script comes back from its own script**: exactly if the numbers of the
lanes of its tiles, in reading order, never decrease. -/
theorem regroup_ofScript_iff {script : String} (h : ofScript script size = .ok board) :
    ofScript board.scripts.flatText size = .ok board ↔
      ((Lanes.sequence board.tokens).map Lane.toNat).Pairwise (· ≤ ·) := by
  obtain ⟨hsame, hne, hvalid⟩ := ofTokens_tokens_of_ofScript h
  rw [ofScript_flatText hvalid hne, ← Lanes.flatten_eq_self_iff]
  constructor
  · intro hgrouped
    -- the board of the grouped tiles lists them as they are grouped
    have hvalid' : ∀ token ∈ board.lanes.flatten, token.valid = true :=
      fun token htoken => hvalid token (board.lanes_flatten_perm.subset htoken)
    exact (tokens_of_ofTokens hvalid' hgrouped).symm
  · intro hflat
    rw [lanes, hflat]
    exact hsame

/-- Two markers come back in order, and do not if the second thread is first. -/
theorem regroup_ofScript_iff_two_markers :
    (∃ board, ofScript "thread 1\n\nTHREAD 2" .standard = .ok board ∧
      ofScript board.scripts.flatText .standard = .ok board) ∧
    ∃ board, ofScript "thread 2\nthread 1" .standard = .ok board ∧
      ofScript board.scripts.flatText .standard ≠ .ok board := by
  have hfit : ∀ tokens : List Token, tokens.length ≤ 35 →
      ∃ board, ofLines (Script.ofTokens tokens) .standard = .ok board :=
    fun tokens h => ofLines_of_length_le (by rwa [Script.length_ofTokens])
  refine ⟨?_, ?_⟩
  · have hread : Script.read "thread 1\n\nTHREAD 2" =
        .ok (Script.ofTokens [.plain .thread1, .plain .thread2]) := by decide +kernel
    obtain ⟨board, hboard⟩ := hfit [.plain .thread1, .plain .thread2] (by decide)
    have htokens := tokens_of_ofTokens (by decide) hboard
    rw [← ofScript_of_read (by decide +kernel) hread] at hboard
    refine ⟨board, hboard, (regroup_ofScript_iff hboard).mpr ?_⟩
    rw [htokens]
    decide
  · have hread : Script.read "thread 2\nthread 1" =
        .ok (Script.ofTokens [.plain .thread2, .plain .thread1]) := by decide +kernel
    obtain ⟨board, hboard⟩ := hfit [.plain .thread2, .plain .thread1] (by decide)
    have htokens := tokens_of_ofTokens (by decide) hboard
    rw [← ofScript_of_read (by decide +kernel) hread] at hboard
    refine ⟨board, hboard, fun hsame => ?_⟩
    have horder := (regroup_ofScript_iff hboard).mp hsame
    rw [htokens] at horder
    exact absurd horder (by decide)

end Board

end Tileboard
