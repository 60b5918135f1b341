import Tileboard.Proofs.CommandText
import Tileboard.Proofs.Packing

/-!
Formatting a script: each line that is read, written as the text of its tile.

1. **What is read decides** — the board of a script depends on nothing but the lines that are read
   (`ofScript_congr`), because a script is blank exactly if it is read and has no line
   (`read_eq_ok_nil_iff`).

2. **Formatting** — the canonical text of the lines of a script is read as the same lines
   (`read_canonical`): they are numbered from 1 already, and their tiles are valid.  So it makes the
   same boards, and formatting it changes nothing (`format_keeps_meaning`).
-/

namespace Tileboard

namespace Script

/-- The text of some lines: the command of each tile, one a line. -/
def canonical (lines : List Line) : String :=
  Lanes.joinLines (lines.map fun line => line.token.text)

/-- The script in its canonical text, if it is read. -/
def format (script : String) : Except ScriptError String :=
  (read script).map canonical

/-! ## What is read decides -/

theorem map_isMarker_linesFrom (number : Nat) (tokens : List Token) :
    (linesFrom number tokens).map (·.isMarker) = tokens.map (·.kind.isMarker) := by
  induction tokens generalizing number with
  | nil => rfl
  | cons token rest ih => simp [linesFrom, Line.ofToken, ih]

theorem map_number_linesFrom (number : Nat) (tokens : List Token) :
    (linesFrom number tokens).map (·.number) = List.range' number tokens.length := by
  induction tokens generalizing number with
  | nil => rfl
  | cons token rest ih => simp [linesFrom, Line.ofToken, ih, List.range'_succ]

/-- **A script is read without any line exactly if it is blank.** -/
theorem read_eq_ok_nil_iff {script : String} : read script = .ok [] ↔ isBlank script = true := by
  rw [← commands_eq_nil_iff, read_eq_ok_iff]
  constructor
  · rintro ⟨tokens, htokens, hnil⟩
    have hlength : tokens.length = 0 := by rw [← length_ofTokens, ← hnil, List.length_nil]
    rw [List.length_eq_zero_iff.mp hlength] at htokens
    exact List.map_eq_nil_iff.mp htokens
  · intro hnil
    exact ⟨[], by rw [hnil]; rfl, rfl⟩

end Script

/-- **Scripts that are read alike make the same board**, or fail alike, on every size. -/
theorem Board.ofScript_congr {script script' : String}
    (h : Script.read script = Script.read script') (size : Size) :
    ofScript script size = ofScript script' size := by
  have hblank : Script.isBlank script = Script.isBlank script' := by
    rw [Bool.eq_iff_iff, ← Script.read_eq_ok_nil_iff, ← Script.read_eq_ok_nil_iff, h]
  rw [ofScript, ofScript, hblank, h]

namespace Script

/-! ## Formatting -/

theorem canonical_ofTokens (tokens : List Token) :
    canonical (ofTokens tokens) = Lanes.joinLines (tokens.map Token.text) := by
  have htext : (ofTokens tokens).map (fun line => line.token.text) =
      ((ofTokens tokens).map (·.token)).map Token.text := by
    rw [List.map_map]
    rfl
  rw [canonical, htext, map_token_ofTokens]

/-- **The canonical text of the lines of a script is read as these lines.** -/
theorem read_canonical {script : String} {lines : List Line} (h : read script = .ok lines) :
    read (canonical lines) = .ok lines := by
  obtain ⟨tokens, htokens, rfl⟩ := read_eq_ok_iff.mp h
  rw [canonical_ofTokens]
  exact read_joinLines_text (valid_of_map_readLine htokens)

/-- **Formatting keeps the meaning of a script, and formatting twice changes nothing.**

* The texts of valid tiles, one a line, are read as the script of these tiles: the same tiles, the
  markers among them marked, numbered from 1.
* The canonical text of a script that is read, which may be blank, makes the same board or fails
  alike on every size, and it is its own canonical text. -/
theorem format_keeps_meaning :
    (∀ tokens : List Token, (∀ token ∈ tokens, token.valid = true) →
      read (Lanes.joinLines (tokens.map Token.text)) = .ok (ofTokens tokens) ∧
      (ofTokens tokens).map (·.token) = tokens ∧
      (ofTokens tokens).map (·.isMarker) = tokens.map (·.kind.isMarker) ∧
      (ofTokens tokens).map (·.number) = List.range' 1 tokens.length) ∧
    (∀ script lines, read script = .ok lines →
      format script = .ok (canonical lines) ∧
      (∀ size, Board.ofScript (canonical lines) size = Board.ofScript script size) ∧
      format (canonical lines) = .ok (canonical lines)) := by
  refine ⟨fun tokens hvalid => ?_, fun script lines hread => ⟨?_, fun size => ?_, ?_⟩⟩
  · exact ⟨read_joinLines_text hvalid, map_token_ofTokens tokens, map_isMarker_linesFrom 1 tokens,
      map_number_linesFrom 1 tokens⟩
  · rw [format, hread]
    rfl
  · refine Board.ofScript_congr ?_ size
    rw [read_canonical hread, hread]
  · rw [format, read_canonical hread]
    rfl

/-- Two tiles written and read again; a script with blank lines, capitals, a sign and further words
loses them and no more; and a blank script becomes the empty one, which makes the demonstration. -/
theorem format_keeps_meaning_of_loose_script :
    read "thread 2\nplay 3" = .ok [⟨1, .plain .thread2, true⟩, ⟨2, ⟨.play, 2⟩, false⟩] ∧
    format "\n THREAD 2\r\n\nplay   +03 now" = .ok "thread 2\nplay 3" ∧
    (∀ size, Board.ofScript "thread 2\nplay 3" size =
      Board.ofScript "\n THREAD 2\r\n\nplay   +03 now" size) ∧
    format " \n" = .ok "" ∧ ∀ size, Board.ofScript "" size = Board.ofScript " \n" size := by
  have hread : read "\n THREAD 2\r\n\nplay   +03 now" =
      .ok (ofTokens [.plain .thread2, ⟨.play, 2⟩]) := by decide +kernel
  have hblank : read " \n" = .ok [] := by decide +kernel
  obtain ⟨hformat, hsame, -⟩ := format_keeps_meaning.2 _ _ hread
  obtain ⟨hformat', hsame', -⟩ := format_keeps_meaning.2 _ _ hblank
  have htiles := (format_keeps_meaning.1 [.plain .thread2, ⟨.play, 2⟩] (by decide)).1
  exact ⟨htiles, hformat, hsame, hformat', hsame'⟩

end Script

end Tileboard
