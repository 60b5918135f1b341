import Tileboard.Lanes
import Tileboard.Proofs.LowercaseText
import Tileboard.Proofs.ScriptLines
import Tileboard.Proofs.TextPieces

/-!
The text that a board writes for its tiles, and how it is read again.

The words of a command are made of plain characters and hold no blank, so nothing that the reader
does to a text first (lowercase, lines, trimming, words) changes a written command.

1. **One command** — the words of a tile's text are the tile's words (`wordsOf_text`), so a valid
   tile is read from its own text (`readLine_text`).

2. **A script** — commands joined by line feeds are the commands of the script
   (`commands_joinLines_text`), which is blank exactly if there are none (`commands_eq_nil_iff`).
   So a script written for valid tiles is read as the script of these tiles
   (`read_joinLines_text`).
-/

namespace Tileboard

theorem map_ofList_toList (texts : List String) :
    (texts.map String.toList).map String.ofList = texts := by
  have hid : String.ofList ∘ String.toList = id := by
    funext text
    exact String.ofList_toList
  rw [List.map_map, hid, List.map_id]

namespace Token

/-! ## One command -/

/-- The word has characters, all of them plain and none a blank. -/
def plainWord (word : String) : Bool :=
  !word.toList.isEmpty && word.toList.all fun c => Text.isPlain c && !Text.isBlank c

theorem plainWord_iff {word : String} : plainWord word = true ↔
    word.toList ≠ [] ∧ ∀ c ∈ word.toList, Text.isPlain c = true ∧ Text.isBlank c = false := by
  simp [plainWord]

/-- A fixed word of a command is plain. -/
def plainLiteral : Word → Bool
  | .literal text => plainWord text
  | .number => true

theorem plainWord_of_literal_mem {kind : Kind} {text : String}
    (h : Word.literal text ∈ kind.phrase) : plainWord text = true := by
  have hall : kind.phrase.all plainLiteral = true := by cases kind <;> decide
  exact List.all_eq_true.mp hall _ h

theorem plainWord_number (token : Token) : plainWord (token.number?.getD "1") = true := by
  have hall : ∀ number ∈ numbers, plainWord number = true := by decide
  rw [number?]
  split
  · rcases h : numbers[token.param]? with _ | number
    · decide
    · exact hall number (List.mem_of_getElem? h)
  · decide

/-- Every word of a command is plain. -/
theorem plainWord_of_mem_words {token : Token} : ∀ word ∈ token.words, plainWord word = true := by
  intro word hword
  obtain ⟨w, hw, rfl⟩ := List.mem_map.mp hword
  cases w with
  | literal text => exact plainWord_of_literal_mem hw
  | number => exact plainWord_number token

theorem words_ne_nil (token : Token) : token.words ≠ [] := by
  have h : token.kind.phrase ≠ [] := by cases token.kind <;> decide
  simpa [words] using h

theorem toList_text (token : Token) :
    token.text.toList = [' '].intercalate (token.words.map String.toList) :=
  String.toList_intercalate

/-- A command has no blank but the single ones between its words. -/
theorem eq_space_or_of_mem_text {token : Token} {c : Char} (h : c ∈ token.text.toList) :
    c = ' ' ∨ (Text.isPlain c = true ∧ Text.isBlank c = false) := by
  rw [toList_text] at h
  rcases Text.mem_intercalate h with h | ⟨piece, hpiece, hc⟩
  · exact Or.inl (List.mem_singleton.mp h)
  · obtain ⟨word, hword, rfl⟩ := List.mem_map.mp hpiece
    exact Or.inr ((plainWord_iff.mp (plainWord_of_mem_words word hword)).2 c hc)

theorem isPlain_of_mem_text {token : Token} : ∀ c ∈ token.text.toList, Text.isPlain c = true := by
  intro c hc
  rcases eq_space_or_of_mem_text hc with rfl | ⟨hplain, -⟩
  · decide
  · exact hplain

theorem newline_not_mem_text (token : Token) : '\n' ∉ token.text.toList := by
  intro h
  rcases eq_space_or_of_mem_text h with h | ⟨-, h⟩
  · exact absurd h (by decide)
  · exact absurd h (by decide)

theorem tight_text (token : Token) : Text.Tight token.text.toList := by
  rw [toList_text]
  refine Text.tight_intercalate (by simpa using token.words_ne_nil) ?_
  intro piece hpiece
  obtain ⟨word, hword, rfl⟩ := List.mem_map.mp hpiece
  obtain ⟨hne, hplain⟩ := plainWord_iff.mp (plainWord_of_mem_words word hword)
  exact Text.tight_of_forall hne fun c hc => (hplain c hc).2

/-- **A written command falls into its words again.** -/
theorem wordsOf_text (token : Token) : Grammar.wordsOf token.text = token.words := by
  have hwords : Text.words token.text.toList = token.words.map String.toList := by
    rw [toList_text]
    refine Text.words_intercalate ?_ ?_
    · intro piece hpiece
      obtain ⟨word, hword, rfl⟩ := List.mem_map.mp hpiece
      exact (plainWord_iff.mp (plainWord_of_mem_words word hword)).1
    · intro piece hpiece c hc
      obtain ⟨word, hword, rfl⟩ := List.mem_map.mp hpiece
      exact ((plainWord_iff.mp (plainWord_of_mem_words word hword)).2 c hc).2
  rw [Grammar.wordsOf, hwords, map_ofList_toList]

/-- **A valid tile is read from its own text.** -/
theorem readLine_text {token : Token} (h : token.valid = true) :
    Grammar.readLine token.text = .ok token := by
  have hread := Grammar.readWords_words h token.text []
  rwa [List.append_nil, ← wordsOf_text] at hread

end Token

/-! ## A script -/

namespace Script

/-- **A script is blank exactly if it has no commands**, although one is tested on the text as it is
and the other on its lowercase lines. -/
theorem commands_eq_nil_iff {script : String} : commands script = [] ↔ isBlank script = true := by
  rw [commands, List.map_eq_nil_iff, fullLines_eq_nil_iff, Text.all_isBlank_lowercase]
  rfl

theorem toList_joinLines (commands : List String) :
    (Lanes.joinLines commands).toList = ['\n'].intercalate (commands.map String.toList) :=
  String.toList_intercalate

/-- A script that is written for tiles has plain characters only. -/
theorem isPlain_of_mem_joinLines_text {tokens : List Token} :
    ∀ c ∈ (Lanes.joinLines (tokens.map Token.text)).toList, Text.isPlain c = true := by
  intro c hc
  rw [toList_joinLines, List.map_map] at hc
  rcases Text.mem_intercalate hc with hc | ⟨piece, hpiece, hc⟩
  · rw [List.mem_singleton.mp hc]
    decide
  · obtain ⟨token, _, rfl⟩ := List.mem_map.mp hpiece
    exact Token.isPlain_of_mem_text c hc

/-- **Commands that are written for tiles are the commands of the script.** -/
theorem commands_joinLines_text (tokens : List Token) :
    commands (Lanes.joinLines (tokens.map Token.text)) = tokens.map Token.text := by
  have hlower : Text.lowercase (Lanes.joinLines (tokens.map Token.text)).toList =
      ['\n'].intercalate ((tokens.map Token.text).map String.toList) := by
    rw [Text.lowercase_of_all_isPlain isPlain_of_mem_joinLines_text, toList_joinLines]
  have hfull : fullLines (['\n'].intercalate ((tokens.map Token.text).map String.toList)) =
      (tokens.map Token.text).map String.toList := by
    rw [List.map_map]
    refine fullLines_intercalate ?_ ?_
    · intro line hline
      obtain ⟨token, _, rfl⟩ := List.mem_map.mp hline
      exact token.tight_text
    · intro line hline
      obtain ⟨token, _, rfl⟩ := List.mem_map.mp hline
      exact token.newline_not_mem_text
  rw [commands, hlower, hfull, map_ofList_toList]

/-- **A line feed at the end of a plain script changes no command.** -/
theorem commands_append_newline {script : String}
    (h : ∀ c ∈ script.toList, Text.isPlain c = true) :
    commands (script ++ "\n") = commands script := by
  have hplain : ∀ c ∈ script.toList ++ ['\n'], Text.isPlain c = true := by
    intro c hc
    rcases List.mem_append.mp hc with hc | hc
    · exact h c hc
    · rw [List.mem_singleton.mp hc]
      decide
  have htext : (script ++ "\n").toList = script.toList ++ ['\n'] := String.toList_append
  rw [commands, commands, htext, Text.lowercase_of_all_isPlain hplain,
    Text.lowercase_of_all_isPlain h, fullLines_append_newline]

/-- **A script that is written for valid tiles is read as the script of these tiles.** -/
theorem read_joinLines_text {tokens : List Token} (h : ∀ token ∈ tokens, token.valid = true) :
    read (Lanes.joinLines (tokens.map Token.text)) = .ok (ofTokens tokens) := by
  refine read_eq_ok_iff.mpr ⟨tokens, ?_, rfl⟩
  rw [commands_joinLines_text, List.map_map]
  exact List.map_congr_left fun token htoken => Token.readLine_text (h token htoken)

theorem isBlank_joinLines_text {tokens : List Token} (h : tokens ≠ []) :
    isBlank (Lanes.joinLines (tokens.map Token.text)) = false := by
  rw [← Bool.not_eq_true, ← commands_eq_nil_iff, commands_joinLines_text, List.map_eq_nil_iff]
  exact h

end Script

end Tileboard
