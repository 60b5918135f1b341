import Tileboard.Proofs.LowercaseText
import Tileboard.Proofs.ScriptLines
import Tileboard.Proofs.TextPieces

/-!
A script in lowercase, line by line and word by word.

A script is put in lowercase as a whole, and only then cut into lines and words, although the form
of a sigma depends on the text around it.  Here this is shown to be the same as lowercasing each
line, and each word of a line, by itself.

1. **Context** — a blank is neither a cased letter nor passed over when one is looked for, so the
   text on the other side of it does not matter (`lowercase_append_blank`).

2. **Pieces** — lowercasing neither makes nor removes a blank, so a lowercase text falls into the
   lowercase pieces of the text (`splitOnP_lowercase`): its lines (`lines_lowercase`) and its words
   (`words_lowercase`).  The commands of a script are its full lines, each in lowercase and trimmed
   (`commands_eq_map`).

3. **Headline** — `read_append`: two scripts with a line feed between them are read one after the
   other, the second under the numbers behind those of the first.
-/

namespace Tileboard

namespace Text

/-! ## The context of a sigma -/

/-- No range of one table meets a range of the other. -/
def Ranges.apart (ranges others : Ranges) : Bool :=
  ranges.all fun range => others.all fun other => range.2 < other.1 || other.2 < range.1

theorem Ranges.contains_of_apart {ranges others : Ranges} {c : Char}
    (h : ranges.apart others = true) (hc : others.contains c = true) :
    ranges.contains c = false := by
  rw [← Bool.not_eq_true, Ranges.contains_iff]
  rintro ⟨range, hrange, hin⟩
  obtain ⟨other, hother, hin'⟩ := Ranges.contains_iff.mp hc
  have hapart := List.all_eq_true.mp (List.all_eq_true.mp h range hrange) other hother
  simp only [Bool.or_eq_true, decide_eq_true_eq] at hapart
  omega

/-- The ASCII letters. -/
def asciiLetters : Ranges :=
  [(0x41, 0x5A), (0x61, 0x7A)]

/-- No blank is a cased letter, and neither a blank nor an ASCII letter is passed over: checked once
on all of the two tables. -/
theorem contextRanges_apart : casedRanges.apart blankRanges = true ∧
    caseIgnorableRanges.apart blankRanges = true ∧
    caseIgnorableRanges.apart asciiLetters = true := by
  decide +kernel

theorem isCased_of_isBlank {b : Char} (hb : isBlank b = true) : isCased b = false :=
  Ranges.contains_of_apart contextRanges_apart.1 hb

theorem isCaseIgnorable_of_isBlank {b : Char} (hb : isBlank b = true) : isCaseIgnorable b = false :=
  Ranges.contains_of_apart contextRanges_apart.2.1 hb

theorem startsCased_blank {b : Char} (hb : isBlank b = true) (cs : List Char) :
    startsCased (b :: cs) = false := by
  rw [startsCased, List.dropWhile_cons_of_neg (by rw [isCaseIgnorable_of_isBlank hb]; decide)]
  exact isCased_of_isBlank hb

/-- What stands behind a blank is not looked at. -/
theorem startsCased_append_blank {b : Char} (hb : isBlank b = true) (cs ds : List Char) :
    startsCased (cs ++ b :: ds) = startsCased cs := by
  induction cs with
  | nil => exact startsCased_blank hb ds
  | cons c cs ih =>
    by_cases hc : isCaseIgnorable c = true
    · rw [startsCased, startsCased, List.cons_append, List.dropWhile_cons_of_pos hc,
        List.dropWhile_cons_of_pos hc]
      exact ih
    · rw [startsCased, startsCased, List.cons_append, List.dropWhile_cons_of_neg hc,
        List.dropWhile_cons_of_neg hc]

theorem lowerAt_append_blank_before {b : Char} (hb : isBlank b = true) (before : List Char)
    (c : Char) (after ds : List Char) :
    lowerAt (before ++ b :: ds) c after = lowerAt before c after := by
  rw [lowerAt, lowerAt, lowerSigma, lowerSigma, startsCased_append_blank hb]

theorem lowerAt_append_blank_after {b : Char} (hb : isBlank b = true) (before : List Char)
    (c : Char) (after ds : List Char) :
    lowerAt before c (after ++ b :: ds) = lowerAt before c after := by
  rw [lowerAt, lowerAt, lowerSigma, lowerSigma, startsCased_append_blank hb]

theorem lowerAt_of_isBlank {b : Char} (hb : isBlank b = true) (before after : List Char) :
    lowerAt before b after = [b] := by
  have hsigma : b ≠ 'Σ' := by rintro rfl; exact absurd hb (by decide)
  have hdotted : b ≠ 'İ' := by rintro rfl; exact absurd hb (by decide)
  rw [lowerAt, if_neg hsigma, if_neg hdotted, lowerChar_of_isBlank hb]

/-- A text is put in lowercase whatever stands in front of the blank before it. -/
theorem lowerFrom_append_blank_before {b : Char} (hb : isBlank b = true) (cs : List Char) :
    ∀ before ds, lowerFrom (before ++ b :: ds) cs = lowerFrom before cs := by
  induction cs with
  | nil => intro before ds; rfl
  | cons c cs ih =>
    intro before ds
    rw [lowerFrom, lowerFrom, lowerAt_append_blank_before hb]
    show _ ++ lowerFrom ((c :: before) ++ b :: ds) cs = _
    rw [ih]

/-- A text is put in lowercase whatever stands behind the blank after it. -/
theorem lowerFrom_append_blank {b : Char} (hb : isBlank b = true) (cs ds : List Char) :
    ∀ before, lowerFrom before (cs ++ b :: ds) = lowerFrom before cs ++ b :: lowercase ds := by
  induction cs with
  | nil =>
    intro before
    rw [List.nil_append, lowerFrom, lowerFrom, lowerAt_of_isBlank hb]
    show b :: lowerFrom ([] ++ b :: before) ds = b :: lowercase ds
    rw [lowerFrom_append_blank_before hb, lowercase]
  | cons c cs ih =>
    intro before
    rw [List.cons_append, lowerFrom, lowerFrom, lowerAt_append_blank_after hb, ih,
      List.append_assoc]

/-- **The form of a letter does not depend on what is beyond a blank**, so not on other words or
other lines. -/
theorem lowercase_append_blank {b : Char} (hb : isBlank b = true) (cs ds : List Char) :
    lowercase (cs ++ b :: ds) = lowercase cs ++ b :: lowercase ds :=
  lowerFrom_append_blank hb cs ds []

/-! ## The pieces of a text in lowercase -/

/-- A blank comes from itself only. -/
theorem eq_of_isBlank_of_mem_lowerAt {before after : List Char} {b c : Char}
    (hb : isBlank b = true) (h : b ∈ lowerAt before c after) : c = b := by
  rw [lowerAt] at h
  split at h
  · -- both forms of the small sigma are letters
    rw [lowerSigma] at h
    split at h <;> rw [List.mem_singleton.mp h] at hb <;> exact absurd hb (by decide)
  · split at h
    · have hdotted : (['i', '\u0307'] : List Char).all (fun c => !isBlank c) = true := by decide
      have hletter := List.all_eq_true.mp hdotted b h
      rw [hb] at hletter
      exact absurd hletter (by decide)
    · -- what becomes a blank is one, and a blank stays what it is
      have hlower : b = lowerChar c := List.mem_singleton.mp h
      have hblank : isBlank c = true := by rw [← isBlank_lowerChar, ← hlower, hb]
      rw [lowerChar_of_isBlank hblank] at hlower
      exact hlower.symm

theorem mem_of_isBlank_of_mem_lowercase {b : Char} (hb : isBlank b = true) {cs : List Char}
    (h : b ∈ lowercase cs) : b ∈ cs := by
  suffices hfrom : ∀ before, b ∈ lowerFrom before cs → b ∈ cs from hfrom [] h
  clear h
  induction cs with
  | nil => intro before h; exact h
  | cons c cs ih =>
    intro before hmem
    rw [lowerFrom] at hmem
    rcases List.mem_append.mp hmem with hmem | hmem
    · rw [eq_of_isBlank_of_mem_lowerAt hb hmem]
      exact List.mem_cons_self ..
    · exact List.mem_cons_of_mem c (ih _ hmem)

/-- **The pieces between the blanks of some kind are put in lowercase each by itself.**  Induction
on the length: a text holds no such blank, or is a piece, a blank and a shorter text. -/
theorem splitOnP_lowercase {p : Char → Bool} (hp : ∀ c, p c = true → isBlank c = true)
    (cs : List Char) : (lowercase cs).splitOnP p = (cs.splitOnP p).map lowercase := by
  -- where no character separates, the text is its only piece, in lowercase as before
  have hpiece : ∀ {piece : List Char}, (∀ c ∈ piece, p c = false) →
      (lowercase piece).splitOnP p = [lowercase piece] := by
    intro piece h
    refine List.splitOnP_eq_singleton fun c hc => ?_
    rw [← Bool.not_eq_true]
    intro hpc
    have hmem := mem_of_isBlank_of_mem_lowercase (hp c hpc) hc
    rw [h c hmem] at hpc
    exact absurd hpc (by decide)
  induction hn : cs.length using Nat.strong_induction_on generalizing cs with
  | _ n ih =>
    cases hfirst : cs.find? p with
    | none =>
      have hnone : ∀ c ∈ cs, p c = false :=
        fun c hc => Bool.eq_false_iff.mpr (List.find?_eq_none.mp hfirst c hc)
      rw [hpiece hnone, List.splitOnP_eq_singleton hnone]
      rfl
    | some b =>
      obtain ⟨hb, piece, rest, rfl, hbefore⟩ := List.find?_eq_some_iff_append.mp hfirst
      have hnone : ∀ c ∈ piece, p c = false := fun c hc => by simpa using hbefore c hc
      have hshorter : rest.length < n := by
        rw [← hn, List.length_append, List.length_cons]
        omega
      rw [lowercase_append_blank (hp b hb), List.splitOnP_append_cons _ _ hb,
        List.splitOnP_append_cons _ _ hb, List.map_append, hpiece hnone,
        List.splitOnP_eq_singleton hnone, ih rest.length hshorter rest rfl]
      rfl

/-- Lowercasing leaves no character out. -/
theorem isEmpty_lowercase (cs : List Char) : (lowercase cs).isEmpty = cs.isEmpty := by
  cases cs with
  | nil => rfl
  | cons c after =>
    have hne : lowerAt [] c after ≠ [] := by
      rw [lowerAt]
      split
      · exact List.cons_ne_nil _ _
      · split <;> exact List.cons_ne_nil _ _
    rw [lowercase, lowerFrom]
    simp [hne]

/-- **The lines of a text in lowercase are its lines, each in lowercase by itself.** -/
theorem lines_lowercase (cs : List Char) : lines (lowercase cs) = (lines cs).map lowercase := by
  refine splitOnP_lowercase (fun c hc => ?_) cs
  rw [beq_iff_eq.mp hc]
  decide

/-- **The words of a text in lowercase are its words, each in lowercase by itself.** -/
theorem words_lowercase (cs : List Char) : words (lowercase cs) = (words cs).map lowercase := by
  have hfull : (fun word : List Char => !word.isEmpty) ∘ lowercase = fun word => !word.isEmpty := by
    funext word
    show (!(lowercase word).isEmpty) = !word.isEmpty
    rw [isEmpty_lowercase]
  rw [words, splitOnP_lowercase (fun _ hc => hc), List.filter_map, hfull, words]

end Text

namespace Script

open Text

/-! ## The commands of a script -/

/-- The full lines of a text are those that are not blank, trimmed. -/
theorem fullLines_eq_map (cs : List Char) :
    fullLines cs = ((lines cs).filter fun line => !line.all Text.isBlank).map trim := by
  rw [fullLines, List.filter_map]
  congr 1
  refine List.filter_congr fun line _ => ?_
  show (!(trim line).isEmpty) = !line.all Text.isBlank
  rw [Bool.eq_iff_iff]
  simp [trim_eq_nil_iff]

/-- **The commands of a script are its full lines, each put in lowercase by itself.** -/
theorem commands_eq_map (script : String) : commands script =
    ((lines script.toList).filter fun line => !line.all Text.isBlank).map fun line =>
      String.ofList (trim (lowercase line)) := by
  have hblank : ((fun line : List Char => !line.all Text.isBlank) ∘ lowercase) =
      fun line => !line.all Text.isBlank := by
    funext line
    show (!(lowercase line).all Text.isBlank) = !line.all Text.isBlank
    rw [all_isBlank_lowercase]
  rw [commands, fullLines_eq_map, lines_lowercase, List.filter_map, hblank, List.map_map,
    List.map_map]
  rfl

/-- There is a command for each full line of the script as it is. -/
theorem length_commands (script : String) :
    (commands script).length = (fullLines script.toList).length := by
  rw [commands_eq_map, fullLines_eq_map, List.length_map, List.length_map]

/-- The commands of two scripts with a line feed between them. -/
theorem commands_append (a b : String) : commands (a ++ "\n" ++ b) = commands a ++ commands b := by
  have htext : (a ++ "\n" ++ b).toList = a.toList ++ '\n' :: b.toList := by
    rw [String.toList_append, String.toList_append, List.append_assoc]
    rfl
  rw [commands_eq_map, htext, lines_append_newline, List.filter_append, List.map_append,
    ← commands_eq_map, ← commands_eq_map]

/-! ## Two scripts -/

/-- **Two scripts with a line feed between them are read one after the other.**  An error of the
first is the error; what the second gives has its numbers moved behind the full lines of the first,
the reason of an error being the same. -/
theorem read_append (a b : String) :
    (∀ error, read a = .error error → read (a ++ "\n" ++ b) = .error error) ∧
      (∀ lines error, read a = .ok lines → read b = .error error →
        ∃ number reason, error = .line number reason ∧
          read (a ++ "\n" ++ b) =
            .error (.line (number + (fullLines a.toList).length) reason)) ∧
      ∀ lines lines', read a = .ok lines → read b = .ok lines' →
        read (a ++ "\n" ++ b) =
          .ok (lines ++ lines'.map (Line.later (fullLines a.toList).length)) := by
  have hread : read (a ++ "\n" ++ b) = readFrom 1 (commands a ++ commands b) := by
    rw [read, commands_append]
  have hbehind : ∀ lines, read a = .ok lines → read (a ++ "\n" ++ b) =
      (readFrom (1 + (fullLines a.toList).length) (commands b)).map (lines ++ ·) := by
    intro lines h
    rw [hread, readFrom_append_of_ok h, length_commands]
  refine ⟨fun error h => ?_, fun lines error h h' => ?_, fun lines lines' h h' => ?_⟩
  · rw [hread]
    exact readFrom_append_of_error h
  · obtain ⟨number, reason, herror, hlater⟩ := readFrom_add_of_error h'
    exact ⟨number, reason, herror, by rw [hbehind lines h, hlater]; rfl⟩
  · rw [hbehind lines h, readFrom_add_of_ok h']
    rfl

/-- A script with blank lines around its command, and one whose last line is none and ends in a
sigma: the first error of the two together is that line, which ends in a final sigma. -/
theorem read_append_final_sigma :
    read "\n  PLAY 3 \r\n\n" = .ok [⟨1, ⟨.play, 2⟩, false⟩] ∧
      read "x = 2\nΟΔΟΣ" = .error (.line 2 (.unknownCommand "οδος")) ∧
      read ("\n  PLAY 3 \r\n\n" ++ "\n" ++ "x = 2\nΟΔΟΣ") =
        .error (.line 3 (.unknownCommand "οδος")) := by
  have hfirst : read "\n  PLAY 3 \r\n\n" = .ok [⟨1, ⟨.play, 2⟩, false⟩] := by decide +kernel
  have hsecond : read "x = 2\nΟΔΟΣ" = .error (.line 2 (.unknownCommand "οδος")) := by decide +kernel
  have hlines : (fullLines "\n  PLAY 3 \r\n\n".toList).length = 1 := by decide +kernel
  obtain ⟨-, herror, -⟩ := read_append "\n  PLAY 3 \r\n\n" "x = 2\nΟΔΟΣ"
  obtain ⟨number, reason, hline, htogether⟩ := herror _ _ hfirst hsecond
  rw [hlines] at htogether
  cases hline
  exact ⟨hfirst, hsecond, htogether⟩

end Script

end Tileboard
