import Tileboard.Proofs.CommandText
import Tileboard.Proofs.LowercaseLines
import Tileboard.Proofs.Packing
import Mathlib.Logic.Relation

/-!
The style of a script: what can be changed in its text without changing its board.

Letter case, blank lines, line ends, the blanks around and between words, and words behind a
complete command are style.  A script in another style makes the same board, or fails in the same
way.

1. **Specification** — `LineRestyles` and `Restyles` are single changes, within a line and of a
   script.  Any number of them, made or taken back, relate two scripts by
   `Relation.EqvGen Restyles`.

2. **Letter case** — an ASCII capital and its small letter are alike wherever lowercasing looks at
   them, also as the context of a sigma, so the lowercase text is the same
   (`lowercase_map_toLower`).

3. **The echo** — the line itself serves one purpose: an unknown command is shown as it stands.  So
   `reading` leaves it out, and commands with the same reading are read alike but for the text that
   is shown (`readLine_of_reading_eq`).

4. **Words** — what a line stands for is told by its words, each in lowercase by itself
   (`readings_of_line`).  A change leaves the words alone, or adds some behind a complete command,
   where they are not looked at; so it keeps the readings (`readings_of_restyles`).

5. **Headline** — `ofScript_restyled`: scripts with the same readings have the same lines or fail at
   the same line (`readFrom_of_readings_eq`).
-/

namespace Tileboard

namespace Script

open Text

/-! ## Specification -/

/-- Blanks that end no line. -/
def Spaces (text : String) : Prop :=
  ∀ c ∈ text.toList, Text.isBlank c = true ∧ c ≠ '\n'

instance (text : String) : Decidable (Spaces text) :=
  List.decidableBAll (fun c => Text.isBlank c = true ∧ c ≠ '\n') text.toList

/-- One change of style within a line. -/
inductive LineRestyles : String → String → Prop
  /-- Blanks in front of the line. -/
  | before {spaces : String} (h : Spaces spaces) (line : String) :
      LineRestyles line (spaces ++ line)
  /-- Blanks behind the line. -/
  | behind {spaces : String} (h : Spaces spaces) (line : String) :
      LineRestyles line (line ++ spaces)
  /-- Other blanks in place of blanks. -/
  | between {gap gap' : String} (h : Spaces gap ∧ gap ≠ "") (h' : Spaces gap' ∧ gap' ≠ "")
      (left right : String) : LineRestyles (left ++ gap ++ right) (left ++ gap' ++ right)
  /-- Further words behind a command, which is complete in lowercase. -/
  | further {line : String} {token : Token}
      (hread : Grammar.readLine (String.ofList (lowercase line.toList)) = .ok token)
      {gap : String} (h : Spaces gap ∧ gap ≠ "") {words : String} (hwords : '\n' ∉ words.toList) :
      LineRestyles line (line ++ gap ++ words)

/-- One change of style in a script; what is above and below may be any number of lines. -/
inductive Restyles : String → String → Prop
  /-- ASCII letters in another case: `Char.toLower` changes the capitals `A` to `Z` only. -/
  | letterCase {script script' : String}
      (h : script.toList.map Char.toLower = script'.toList.map Char.toLower) :
      Restyles script script'
  /-- A line of blanks more. -/
  | blankLine {blank : String} (h : isBlank blank = true) (above below : List String) :
      Restyles (Lanes.joinLines (above ++ below)) (Lanes.joinLines (above ++ blank :: below))
  /-- A carriage return in front of a line feed. -/
  | lineEnd (before after : String) :
      Restyles (before ++ "\n" ++ after) (before ++ "\r\n" ++ after)
  /-- A change within a line. -/
  | line {line line' : String} (hline : '\n' ∉ line.toList) (h : LineRestyles line line')
      (above below : List String) :
      Restyles (Lanes.joinLines (above ++ line :: below))
        (Lanes.joinLines (above ++ line' :: below))

end Script

namespace Text

/-! ## Letters in either case -/

/-- A character that changes in lowercase ASCII is one of the 26 capitals. -/
theorem toLower_eq_self_or (c : Char) :
    c.toLower = c ∨ ∃ k : Fin 26, c = Char.ofNat (0x41 + k) := by
  by_cases h : 0x41 ≤ c.toNat ∧ c.toNat ≤ 0x5A
  · refine Or.inr ⟨⟨c.toNat - 0x41, by omega⟩, ?_⟩
    have hsum : 0x41 + (c.toNat - 0x41) = c.toNat := by omega
    rw [hsum, Char.ofNat_toNat]
  · left
    show dite _ _ _ = c
    exact dif_neg h

theorem contains_asciiLetters : ∀ k : Fin 26,
    asciiLetters.contains (Char.ofNat (0x41 + k)) = true ∧
      asciiLetters.contains (Char.ofNat (0x41 + k)).toLower = true := by
  decide

theorem isCased_of_asciiLetters {c : Char} (h : asciiLetters.contains c = true) :
    isCased c = true := by
  obtain ⟨range, hrange, hin⟩ := Ranges.contains_iff.mp h
  refine Ranges.contains_iff.mpr ⟨range, ?_, hin⟩
  -- the capitals and the small letters are the first two ranges of the table
  exact List.take_subset 2 casedRanges hrange

theorem isCaseIgnorable_of_asciiLetters {c : Char} (h : asciiLetters.contains c = true) :
    isCaseIgnorable c = false :=
  Ranges.contains_of_apart contextRanges_apart.2.2 h

/-- An ASCII capital and its small letter are both cased, and neither is passed over. -/
theorem isCased_toLower (c : Char) : isCased c.toLower = isCased c := by
  rcases toLower_eq_self_or c with h | ⟨k, rfl⟩
  · rw [h]
  · obtain ⟨hcapital, hsmall⟩ := contains_asciiLetters k
    rw [isCased_of_asciiLetters hcapital, isCased_of_asciiLetters hsmall]

theorem isCaseIgnorable_toLower (c : Char) : isCaseIgnorable c.toLower = isCaseIgnorable c := by
  rcases toLower_eq_self_or c with h | ⟨k, rfl⟩
  · rw [h]
  · obtain ⟨hcapital, hsmall⟩ := contains_asciiLetters k
    rw [isCaseIgnorable_of_asciiLetters hcapital, isCaseIgnorable_of_asciiLetters hsmall]

theorem startsCased_map_toLower (cs : List Char) :
    startsCased (cs.map Char.toLower) = startsCased cs := by
  induction cs with
  | nil => rfl
  | cons c cs ih =>
    have hsame := isCaseIgnorable_toLower c
    by_cases hc : isCaseIgnorable c = true
    · rw [hc] at hsame
      rw [List.map_cons, startsCased, startsCased, List.dropWhile_cons_of_pos hsame,
        List.dropWhile_cons_of_pos hc]
      exact ih
    · rw [Bool.eq_false_iff.mpr hc] at hsame
      rw [List.map_cons, startsCased, startsCased,
        List.dropWhile_cons_of_neg (Bool.eq_false_iff.mp hsame), List.dropWhile_cons_of_neg hc]
      exact isCased_toLower c

theorem lowerAt_map_toLower (before : List Char) (c : Char) (after : List Char) :
    lowerAt (before.map Char.toLower) c.toLower (after.map Char.toLower) =
      lowerAt before c after := by
  rcases toLower_eq_self_or c with h | ⟨k, rfl⟩
  · rw [h, lowerAt, lowerAt, lowerSigma, lowerSigma, startsCased_map_toLower,
      startsCased_map_toLower]
  · -- the capital is none of the two that need more than the table, and its small letter is plain
    have hcapital : ∀ k : Fin 26, Char.ofNat (0x41 + k) ≠ 'Σ' ∧ Char.ofNat (0x41 + k) ≠ 'İ' ∧
        lowerChar (Char.ofNat (0x41 + k)) = (Char.ofNat (0x41 + k)).toLower ∧
        isPlain (Char.ofNat (0x41 + k)).toLower = true := by decide
    obtain ⟨hsigma, hdotted, hlower, hplain⟩ := hcapital k
    rw [lowerAt_of_isPlain hplain, lowerAt, if_neg hsigma, if_neg hdotted, hlower]

/-- **A text with its ASCII letters in another case is the same in lowercase.** -/
theorem lowercase_map_toLower (cs : List Char) :
    lowercase (cs.map Char.toLower) = lowercase cs := by
  suffices h : ∀ before, lowerFrom (before.map Char.toLower) (cs.map Char.toLower) =
      lowerFrom before cs from h []
  induction cs with
  | nil => intro before; rfl
  | cons c after ih =>
    intro before
    rw [List.map_cons, lowerFrom, lowerFrom, lowerAt_map_toLower]
    exact congrArg _ (ih (c :: before))

end Text

/-! ## The echo -/

namespace Grammar

open Text

/-- The first words of the commands. -/
def keywords : List String :=
  ["thread", "loop", "end", "play", "delay", "x", "if", "else", "function", "call"]

theorem readNumbered_ne_unknown (kind : Kind) (rest : List String) (line : String) :
    readNumbered kind rest ≠ .error (.unknownCommand line) := by
  unfold readNumbered
  split
  · nofun
  · split <;> nofun

/-- Behind a keyword the line is neither looked at nor shown, one case for each production. -/
theorem readWords_keyword {keyword : String} (h : keyword ∈ keywords) (rest : List String)
    (line line' : String) :
    readWords line (keyword :: rest) = readWords line' (keyword :: rest) ∧
      readWords line (keyword :: rest) ≠ .error (.unknownCommand line') := by
  simp only [keywords, List.mem_cons, List.not_mem_nil, or_false] at h
  rcases h with rfl | rfl | rfl | rfl | rfl | rfl | rfl | rfl | rfl | rfl
  · refine ⟨rfl, ?_⟩
    show readThread rest ≠ _
    unfold readThread
    split <;> nofun
  · exact ⟨rfl, readNumbered_ne_unknown .loop rest line'⟩
  · refine ⟨rfl, ?_⟩
    show readEnd rest ≠ _
    unfold readEnd
    split <;> nofun
  · refine ⟨rfl, ?_⟩
    show readPlay rest ≠ _
    unfold readPlay
    split
    · nofun
    · exact readNumbered_ne_unknown _ _ _
  · exact ⟨rfl, readNumbered_ne_unknown .delay rest line'⟩
  · refine ⟨rfl, ?_⟩
    show readAssignment rest ≠ _
    unfold readAssignment
    split
    · nofun
    · nofun
    · nofun
    · nofun
    · exact readNumbered_ne_unknown _ _ _
    · nofun
  · refine ⟨rfl, ?_⟩
    show readCondition rest ≠ _
    unfold readCondition
    split
    · exact readNumbered_ne_unknown _ _ _
    · nofun
  · exact ⟨rfl, nofun⟩
  · exact ⟨rfl, nofun⟩
  · refine ⟨rfl, ?_⟩
    show readCall rest ≠ _
    unfold readCall
    split <;> nofun

/-- Without a keyword the line is shown. -/
theorem readWords_of_not_keyword {word : String} (h : word ∉ keywords) (rest : List String)
    (line : String) : readWords line (word :: rest) = .error (.unknownCommand line) := by
  simp only [keywords, List.mem_cons, List.not_mem_nil, or_false, not_or] at h
  unfold readWords
  split <;> simp_all

theorem readWords_shows_or (words : List String) :
    (∀ line, readWords line words = .error (.unknownCommand line)) ∨
      ∀ line line', readWords line words = readWords line' words ∧
        readWords line words ≠ .error (.unknownCommand line') := by
  cases words with
  | nil => exact Or.inl fun line => rfl
  | cons word rest =>
    by_cases h : word ∈ keywords
    · exact Or.inr (readWords_keyword h rest)
    · exact Or.inl (readWords_of_not_keyword h rest)

/-- What a command is read as, if an unknown one is not shown. -/
def reading (command : String) : Except LineError Token :=
  readWords "" (wordsOf command)

/-- **Commands with the same reading are read alike**, except that an unknown one is shown as it
stands. -/
theorem readLine_of_reading_eq {command command' : String}
    (h : reading command = reading command') :
    readLine command = readLine command' ∨
      readLine command = .error (.unknownCommand command) ∧
        readLine command' = .error (.unknownCommand command') := by
  rcases readWords_shows_or (wordsOf command) with hshown | hnot
  · rcases readWords_shows_or (wordsOf command') with hshown' | hother
    · exact Or.inr ⟨hshown command, hshown' command'⟩
    · -- only a line that is shown is read as an unknown command
      rw [reading, reading, hshown ""] at h
      exact absurd h.symm (hother "" "").2
  · rcases readWords_shows_or (wordsOf command') with hshown' | hother
    · rw [reading, reading, hshown' ""] at h
      exact absurd h (hnot "" "").2
    · left
      calc readLine command
          = reading command := (hnot command "").1
        _ = reading command' := h
        _ = readLine command' := (hother "" command').1

/-- What is read is read from the first words alone. -/
theorem readWords_append_of_ok {line : String} {words : List String} {token : Token}
    (h : readWords line words = .ok token) (line' : String) (rest : List String) :
    readWords line' (words ++ rest) = .ok token := by
  obtain ⟨command, ⟨after, rfl⟩, hcommand⟩ := begins_of_readWords h
  rw [List.append_assoc]
  exact readWords_of_isCommand hcommand line' (after ++ rest)

/-- The words of a line in lowercase are its words in lowercase, also if it is trimmed. -/
theorem wordsOf_trim_lowercase (line : List Char) :
    wordsOf (String.ofList (trim (lowercase line))) =
      (words line).map fun word => String.ofList (lowercase word) := by
  rw [wordsOf, String.toList_ofList, words_trim, words_lowercase, List.map_map]
  rfl

theorem wordsOf_lowercase (line : List Char) : wordsOf (String.ofList (lowercase line)) =
    (words line).map fun word => String.ofList (lowercase word) := by
  rw [wordsOf, String.toList_ofList, words_lowercase, List.map_map]
  rfl

end Grammar

namespace Script

open Text

/-! ## The readings of a script -/

/-- What the commands of a script are read as, unknown ones not shown. -/
def readings (script : String) : List (Except LineError Token) :=
  (commands script).map Grammar.reading

theorem readings_append_newline (a b : String) :
    readings (a ++ "\n" ++ b) = readings a ++ readings b := by
  rw [readings, commands_append, List.map_append]
  rfl

theorem readings_joinLines (texts : List String) :
    readings (Lanes.joinLines texts) = texts.flatMap readings := by
  induction texts with
  | nil => rfl
  | cons text rest ih =>
    rcases rest with _ | ⟨next, rest⟩
    · rw [List.flatMap_singleton, Lanes.joinLines, String.intercalate_singleton]
    · rw [Lanes.joinLines, String.intercalate_cons_cons, readings_append_newline,
        List.flatMap_cons, ← ih]
      rfl

theorem readings_eq_nil_iff {script : String} : readings script = [] ↔ isBlank script = true := by
  rw [readings, List.map_eq_nil_iff, commands_eq_nil_iff]

/-- What some words of a line are read as; without words there is nothing to read. -/
def readingsOfWords (words : List (List Char)) : List (Except LineError Token) :=
  if words = [] then []
  else [Grammar.readWords "" (words.map fun word => String.ofList (lowercase word))]

/-- **What a line stands for is told by its words**, each in lowercase by itself. -/
theorem readings_of_line {line : String} (h : '\n' ∉ line.toList) :
    readings line = readingsOfWords (words line.toList) := by
  have hline : lines line.toList = [line.toList] := by
    refine List.splitOnP_eq_singleton fun c hc => ?_
    rw [beq_eq_false_iff_ne]
    rintro rfl
    exact h hc
  rw [readings, commands_eq_map, hline, readingsOfWords]
  by_cases hblank : line.toList.all Text.isBlank = true
  · rw [if_pos (words_eq_nil_iff.mpr hblank), List.filter_cons_of_neg (by rw [hblank]; decide)]
    rfl
  · rw [if_neg (mt words_eq_nil_iff.mp hblank),
      List.filter_cons_of_pos (by rw [Bool.eq_false_iff.mpr hblank]; rfl),
      ← Grammar.wordsOf_trim_lowercase]
    rfl

/-! ## Each change keeps the readings -/

theorem Spaces.isBlank {spaces : String} (h : Spaces spaces) :
    ∀ c ∈ spaces.toList, Text.isBlank c = true :=
  fun c hc => (h c hc).1

theorem Spaces.newline_not_mem {spaces : String} (h : Spaces spaces) : '\n' ∉ spaces.toList :=
  fun hc => (h _ hc).2 rfl

/-- A change within a line makes no second line. -/
theorem newline_not_mem_of_lineRestyles {line line' : String} (h : LineRestyles line line')
    (hline : '\n' ∉ line.toList) : '\n' ∉ line'.toList := by
  cases h with
  | before hspaces =>
    rw [String.toList_append, List.mem_append]
    exact fun hmem => hmem.elim hspaces.newline_not_mem hline
  | behind hspaces =>
    rw [String.toList_append, List.mem_append]
    exact fun hmem => hmem.elim hline hspaces.newline_not_mem
  | between hgap hgap' left right =>
    simp only [String.toList_append, List.mem_append, not_or] at hline ⊢
    exact ⟨⟨hline.1.1, hgap'.1.newline_not_mem⟩, hline.2⟩
  | further hread hgap hwords =>
    simp only [String.toList_append, List.mem_append, not_or]
    exact ⟨⟨hline, hgap.1.newline_not_mem⟩, hwords⟩

theorem readingsOfWords_of_lineRestyles {line line' : String} (h : LineRestyles line line') :
    readingsOfWords (words line'.toList) = readingsOfWords (words line.toList) := by
  cases h with
  | before hspaces => rw [String.toList_append, words_blanks_append hspaces.isBlank]
  | behind hspaces => rw [String.toList_append, words_append_blanks hspaces.isBlank]
  | @between gap gap' hgap hgap' left right =>
    have hne : gap.toList ≠ [] := by simpa using hgap.2
    have hne' : gap'.toList ≠ [] := by simpa using hgap'.2
    simp only [String.toList_append, words_append_blanks_append hgap.1.isBlank hne,
      words_append_blanks_append hgap'.1.isBlank hne']
  | @further _ token hread gap hgap further _ =>
    have hne : gap.toList ≠ [] := by simpa using hgap.2
    rw [Grammar.readLine, Grammar.wordsOf_lowercase] at hread
    have hfull : words line.toList ≠ [] := by
      intro hnil
      rw [hnil] at hread
      cases hread
    have hfull' : words line.toList ++ words further.toList ≠ [] := by
      intro hnil
      exact hfull (List.append_eq_nil_iff.mp hnil).1
    have hown := Grammar.readWords_append_of_ok hread "" []
    rw [List.append_nil] at hown
    simp only [String.toList_append, words_append_blanks_append hgap.1.isBlank hne]
    rw [readingsOfWords, readingsOfWords, if_neg hfull', if_neg hfull, List.map_append,
      Grammar.readWords_append_of_ok hread, hown]

/-- **A change within a line keeps the readings of the line.** -/
theorem readings_of_lineRestyles {line line' : String} (hline : '\n' ∉ line.toList)
    (h : LineRestyles line line') : readings line' = readings line := by
  rw [readings_of_line hline, readings_of_line (newline_not_mem_of_lineRestyles h hline),
    readingsOfWords_of_lineRestyles h]

/-- Blanks behind a text are blanks behind its last line. -/
theorem readings_append_spaces {spaces : String} (h : Spaces spaces) (text : String) :
    readings (text ++ spaces) = readings text := by
  by_cases hmem : '\n' ∈ text.toList
  · -- the last line is what stands behind the last line feed
    obtain ⟨last, front, hreverse, hlast⟩ :=
      List.eq_append_cons_of_mem (List.mem_reverse.mpr hmem)
    have htext : text = String.ofList front.reverse ++ "\n" ++ String.ofList last.reverse := by
      rw [← String.toList_inj, String.toList_append, String.toList_append, String.toList_ofList,
        String.toList_ofList, ← List.reverse_reverse text.toList, hreverse]
      simp
    have hline : '\n' ∉ (String.ofList last.reverse).toList := by simpa using hlast
    rw [htext, String.append_assoc, readings_append_newline, readings_append_newline,
      readings_of_lineRestyles hline (.behind h _)]
  · exact readings_of_lineRestyles hmem (.behind h text)

/-- **One change of style keeps the readings.** -/
theorem readings_of_restyles {script script' : String} (h : Restyles script script') :
    readings script' = readings script := by
  cases h with
  | letterCase h =>
    have hlower : lowercase script'.toList = lowercase script.toList := by
      rw [← lowercase_map_toLower script'.toList, ← h, lowercase_map_toLower]
    rw [readings, commands, hlower, readings, commands]
  | blankLine hblank above below =>
    rw [readings_joinLines, readings_joinLines, List.flatMap_append, List.flatMap_append,
      List.flatMap_cons, readings_eq_nil_iff.mpr hblank, List.nil_append]
  | lineEnd before after =>
    -- the carriage return is a blank at the end of the line
    have hspaces : Spaces "\r" := by decide
    have htext : before ++ "\r\n" ++ after = before ++ "\r" ++ "\n" ++ after := by
      rw [← String.toList_inj]
      simp
    rw [htext, readings_append_newline, readings_append_newline, readings_append_spaces hspaces]
  | line hline h above below =>
    rw [readings_joinLines, readings_joinLines, List.flatMap_append, List.flatMap_append,
      List.flatMap_cons, List.flatMap_cons, readings_of_lineRestyles hline h]

/-- So does any number of changes, made or taken back. -/
theorem readings_of_eqvGen {script script' : String}
    (h : Relation.EqvGen Restyles script script') : readings script' = readings script := by
  induction h with
  | rel _ _ h => exact readings_of_restyles h
  | refl _ => rfl
  | symm _ _ _ ih => exact ih.symm
  | trans _ _ _ _ _ ih ih' => exact ih'.trans ih

/-- **Commands with the same readings are read alike**, or both fail at the same line, which is an
unknown command and shown as it stands. -/
theorem readFrom_of_readings_eq {commands commands' : List String}
    (h : commands'.map Grammar.reading = commands.map Grammar.reading) (number : Nat) :
    readFrom number commands' = readFrom number commands ∨
      ∃ i line line', commands[i]? = some line ∧ commands'[i]? = some line' ∧
        readFrom number commands = .error (.line (number + i) (.unknownCommand line)) ∧
        readFrom number commands' = .error (.line (number + i) (.unknownCommand line')) := by
  induction commands generalizing commands' number with
  | nil =>
    rw [List.map_eq_nil_iff.mp h]
    exact Or.inl rfl
  | cons command rest ih =>
    rcases commands' with _ | ⟨command', rest'⟩
    · cases h
    · rw [List.map_cons, List.map_cons, List.cons.injEq] at h
      rcases Grammar.readLine_of_reading_eq h.1 with hsame | ⟨hunknown', hunknown⟩
      · cases hline : Grammar.readLine command with
        | error reason =>
          rw [hline] at hsame
          exact Or.inl (by rw [readFrom, readFrom, hline, hsame])
        | ok token =>
          rw [hline] at hsame
          rw [readFrom_cons_of_ok hline, readFrom_cons_of_ok hsame]
          rcases ih h.2 (number + 1) with hrest | ⟨i, line, line', hi, hi', herror, herror'⟩
          · exact Or.inl (by rw [hrest])
          · refine Or.inr ⟨i + 1, line, line', hi, hi', ?_, ?_⟩
            · rw [herror, Nat.add_assoc, Nat.add_comm 1 i]
              rfl
            · rw [herror', Nat.add_assoc, Nat.add_comm 1 i]
              rfl
      · refine Or.inr ⟨0, command, command', rfl, rfl, ?_, ?_⟩
        · simp only [readFrom, hunknown, Nat.add_zero]
        · simp only [readFrom, hunknown', Nat.add_zero]

end Script

namespace Board

open Script

/-- **The style of a script does not matter to its board.**  Scripts that differ in any number of
changes of style make the same board on every size, or fail with the same error: either there are
too many lines, or the same line is no command for the same reason.  Only where that line begins
with no known word do the errors differ, because each script shows its own line. -/
theorem ofScript_restyled {script script' : String} (h : Relation.EqvGen Restyles script script')
    (size : Size) :
    ofScript script' size = ofScript script size ∨
      ∃ i line line', (commands script)[i]? = some line ∧ (commands script')[i]? = some line' ∧
        ofScript script size = .error (.line (i + 1) (.unknownCommand line)) ∧
        ofScript script' size = .error (.line (i + 1) (.unknownCommand line')) := by
  have hreadings := readings_of_eqvGen h
  have hblank : isBlank script' = isBlank script := by
    rw [Bool.eq_iff_iff, ← readings_eq_nil_iff, ← readings_eq_nil_iff, hreadings]
  by_cases hb : isBlank script = true
  · left
    rw [ofScript, ofScript, hblank, if_pos hb, if_pos hb]
  · have hfull : isBlank script = false := by simpa using hb
    have hfull' : isBlank script' = false := hblank.trans hfull
    rcases readFrom_of_readings_eq hreadings 1 with
      hsame | ⟨i, line, line', hi, hi', herror, herror'⟩
    · left
      rw [ofScript, ofScript, hblank, Script.read, Script.read, hsame]
    · rw [Nat.add_comm] at herror herror'
      exact Or.inr ⟨i, line, line', hi, hi', ofScript_of_read_error hfull herror,
        ofScript_of_read_error hfull' herror'⟩

/-- A word behind a command leaves the board of two commands as it is, and an ideographic space in
front of an unknown command leaves its error as it is. -/
theorem ofScript_restyled_final_sigma :
    (∃ board, ofScript (Lanes.joinLines ["PLAY 3", "Thread 2"]) .standard = .ok board ∧
      ofScript (Lanes.joinLines ["PLAY 3" ++ " " ++ "now", "Thread 2"]) .standard = .ok board) ∧
    ofScript (Lanes.joinLines ["play 3", "\u3000" ++ "ΟΔΟΣ"]) .standard =
      .error (.line 2 (.unknownCommand "οδος")) := by
  refine ⟨?_, ?_⟩
  · have hplay : Grammar.readLine (String.ofList (Text.lowercase "PLAY 3".toList)) =
        .ok ⟨.play, 2⟩ := by decide +kernel
    have hgap : Spaces " " ∧ " " ≠ "" := by decide
    have hfurther : Restyles (Lanes.joinLines ["PLAY 3", "Thread 2"])
        (Lanes.joinLines ["PLAY 3" ++ " " ++ "now", "Thread 2"]) :=
      .line (by decide) (.further hplay hgap (by decide)) [] ["Thread 2"]
    have hread : Script.read (Lanes.joinLines ["PLAY 3", "Thread 2"]) =
        .ok (Script.ofTokens [⟨.play, 2⟩, .plain .thread2]) := by decide +kernel
    have hfit : (Script.ofTokens [⟨.play, 2⟩, .plain .thread2]).length ≤ Size.standard.area := by
      decide
    obtain ⟨board, hboard⟩ := ofLines_of_length_le hfit
    rw [← ofScript_of_read (by decide +kernel) hread] at hboard
    refine ⟨board, hboard, ?_⟩
    rcases ofScript_restyled (.rel _ _ hfurther) .standard with
      hsame | ⟨_, _, _, _, _, herror, _⟩
    · rw [hsame, hboard]
    · rw [hboard] at herror
      cases herror
  · have hspaces : Spaces "\u3000" := by decide
    have hline : Restyles (Lanes.joinLines ["play 3", "ΟΔΟΣ"])
        (Lanes.joinLines ["play 3", "\u3000" ++ "ΟΔΟΣ"]) :=
      .line (by decide) (.before hspaces "ΟΔΟΣ") ["play 3"] []
    have hplain : ofScript (Lanes.joinLines ["play 3", "ΟΔΟΣ"]) .standard =
        .error (.line 2 (.unknownCommand "οδος")) := by decide +kernel
    rcases ofScript_restyled (.rel _ _ hline) .standard with
      hsame | ⟨i, _, line', _, hi, herror, herror'⟩
    · exact hsame.trans hplain
    · rw [hplain, Except.error.injEq, ScriptError.line.injEq] at herror
      obtain rfl : i = 1 := Nat.succ.inj herror.1.symm
      have hshown : (commands (Lanes.joinLines ["play 3", "\u3000" ++ "ΟΔΟΣ"]))[1]? =
          some "οδος" := by decide +kernel
      rw [herror', Option.some.inj (hi.symm.trans hshown)]

end Board

end Tileboard
