import Tileboard.Script
import Mathlib.Data.List.DropRight
import Mathlib.Data.List.TakeWhile

/-!
Texts put together from pieces, and the pieces they fall into again.

Commands are joined by line feeds and the words of a command by single blanks.  Both joins are
undone by the reader's own splitting, and that is all that a written script relies on.

1. **Trimming** — a text without a blank at either end is left alone (`trim_eq_self`), nothing is
   left exactly of a blank text (`trim_eq_nil_iff`), and blanks at the end go (`trimEnd_append_blanks`).

2. **Words** — words joined by blanks are the words of the text (`words_intercalate`).  Blanks
   around a text, and which and how many stand between two parts of it, leave its words as they are
   (`words_trim`, `words_append_blanks_append`); a text without words is blank
   (`words_eq_nil_iff`).

3. **Lines** — trimmed lines joined by line feeds are the full lines of the text
   (`fullLines_intercalate`); a text without full lines is blank (`fullLines_eq_nil_iff`).  Lines that
   are each ended by a line feed are the lines of the text (`lines_flatMap_newline`), and joined lines
   with a line feed at the end are such ones (`intercalate_append_separator`).
-/

namespace Tileboard

namespace Text

/-! ## Trimming -/

theorem trimEnd_eq_rdropWhile (cs : List Char) : trimEnd cs = cs.rdropWhile isBlank :=
  rfl

theorem trim_eq_nil_iff {cs : List Char} : trim cs = [] ↔ cs.all isBlank = true := by
  rw [trim, trimEnd_eq_rdropWhile, List.rdropWhile_eq_nil_iff, List.all_eq_true]
  constructor
  · intro h
    -- what is dropped in front is blank, and so is what is left
    have hnil : cs.dropWhile isBlank = [] := by
      rcases hd : cs.dropWhile isBlank with _ | ⟨c, rest⟩
      · rfl
      · have hfirst := List.head?_dropWhile_not isBlank cs
        rw [hd] at hfirst h
        exact absurd (h c (List.mem_cons_self ..)) (by simpa using hfirst)
    exact List.dropWhile_eq_nil_iff.mp hnil
  · intro h c hc
    exact h c ((List.dropWhile_sublist _).subset hc)

/-- Blanks at the end of a text are cut off, up to the last character that is none. -/
theorem trimEnd_append_blanks {blanks : List Char} (h : ∀ b ∈ blanks, isBlank b = true) {c : Char}
    (hc : isBlank c = false) (cs : List Char) : trimEnd (cs ++ [c] ++ blanks) = cs ++ [c] := by
  have hblanks : ∀ b ∈ blanks.reverse, isBlank b = true := fun b hb => h b (List.mem_reverse.mp hb)
  rw [trimEnd, List.reverse_append, List.dropWhile_append_of_pos hblanks, ← trimEnd,
    trimEnd_eq_rdropWhile, List.rdropWhile_concat_neg _ _ _ (by rw [hc]; decide)]

/-- The text has a first and a last character, and neither is a blank. -/
def Tight (cs : List Char) : Prop :=
  (∃ c rest, cs = c :: rest ∧ isBlank c = false) ∧ ∃ init c, cs = init ++ [c] ∧ isBlank c = false

theorem Tight.ne_nil {cs : List Char} (h : Tight cs) : cs ≠ [] := by
  obtain ⟨⟨c, rest, rfl, -⟩, -⟩ := h
  exact List.cons_ne_nil c rest

/-- **Trimming leaves a tight text alone.** -/
theorem trim_eq_self {cs : List Char} (h : Tight cs) : trim cs = cs := by
  obtain ⟨⟨c, rest, hfirst, hc⟩, ⟨init, d, hlast, hd⟩⟩ := h
  have hfront : cs.dropWhile isBlank = cs := by
    rw [hfirst, List.dropWhile_cons_of_neg (by rw [hc]; decide)]
  have hback : (init ++ [d]).rdropWhile isBlank = init ++ [d] :=
    List.rdropWhile_concat_neg _ _ _ (by rw [hd]; decide)
  rw [trim, hfront, trimEnd_eq_rdropWhile, hlast, hback]

/-- A word, and more generally a text without blanks, is tight. -/
theorem tight_of_forall {cs : List Char} (hne : cs ≠ []) (h : ∀ c ∈ cs, isBlank c = false) :
    Tight cs := by
  constructor
  · obtain ⟨c, rest, rfl⟩ := List.exists_cons_of_ne_nil hne
    exact ⟨c, rest, rfl, h c (List.mem_cons_self ..)⟩
  · obtain ⟨init, c, rfl⟩ := List.eq_nil_or_concat' cs |>.resolve_left hne
    exact ⟨init, c, rfl, h c (by simp)⟩

/-- Tight texts with anything between them make a tight text. -/
theorem Tight.append {cs ds : List Char} (hc : Tight cs) (hd : Tight ds) (middle : List Char) :
    Tight (cs ++ middle ++ ds) := by
  obtain ⟨⟨c, rest, rfl, hblank⟩, -⟩ := hc
  obtain ⟨-, ⟨init, d, rfl, hblank'⟩⟩ := hd
  exact ⟨⟨c, rest ++ middle ++ (init ++ [d]), rfl, hblank⟩,
    ⟨c :: rest ++ middle ++ init, d, by simp, hblank'⟩⟩

/-- Tight texts joined by anything make a tight text. -/
theorem tight_intercalate {separator : List Char} {pieces : List (List Char)} (hne : pieces ≠ [])
    (h : ∀ piece ∈ pieces, Tight piece) : Tight (separator.intercalate pieces) := by
  induction pieces with
  | nil => exact absurd rfl hne
  | cons piece rest ih =>
    have hpiece := h piece (List.mem_cons_self ..)
    rcases rest with _ | ⟨next, rest⟩
    · rwa [List.intercalate_singleton]
    · rw [List.intercalate_cons_of_ne_nil (List.cons_ne_nil next rest)]
      exact hpiece.append (ih (List.cons_ne_nil next rest) fun p hp =>
        h p (List.mem_cons_of_mem piece hp)) separator

/-- Pieces joined by a separator, and the separator once more, are the pieces with one behind each. -/
theorem intercalate_append_separator (separator : List Char) {pieces : List (List Char)}
    (hne : pieces ≠ []) :
    separator.intercalate pieces ++ separator = pieces.flatMap (· ++ separator) := by
  induction pieces with
  | nil => exact absurd rfl hne
  | cons piece rest ih =>
    rcases rest with _ | ⟨next, rest⟩
    · rw [List.intercalate_singleton, List.flatMap_singleton]
    · rw [List.intercalate_cons_cons, List.append_assoc, ih (List.cons_ne_nil next rest)]
      rfl

/-- Every character of a joined text is in a piece or in the separator. -/
theorem mem_intercalate {separator : List Char} {pieces : List (List Char)} {c : Char}
    (h : c ∈ separator.intercalate pieces) : c ∈ separator ∨ ∃ piece ∈ pieces, c ∈ piece := by
  induction pieces with
  | nil => exact absurd h List.not_mem_nil
  | cons piece rest ih =>
    rcases rest with _ | ⟨next, rest⟩
    · rw [List.intercalate_singleton] at h
      exact Or.inr ⟨piece, List.mem_cons_self .., h⟩
    · rw [List.intercalate_cons_of_ne_nil (List.cons_ne_nil next rest)] at h
      rcases List.mem_append.mp h with h | h
      · rcases List.mem_append.mp h with h | h
        · exact Or.inr ⟨piece, List.mem_cons_self .., h⟩
        · exact Or.inl h
      · rcases ih h with hs | ⟨p, hp, hc⟩
        · exact Or.inl hs
        · exact Or.inr ⟨p, List.mem_cons_of_mem piece hp, hc⟩

theorem mem_intercalate_of_mem {separator : List Char} {pieces : List (List Char)}
    {piece : List Char} {c : Char} (hp : piece ∈ pieces) (hc : c ∈ piece) :
    c ∈ separator.intercalate pieces := by
  induction pieces with
  | nil => exact absurd hp List.not_mem_nil
  | cons first rest ih =>
    rcases rest with _ | ⟨next, rest⟩
    · rw [List.intercalate_singleton, ← List.mem_singleton.mp hp]
      exact hc
    · rw [List.intercalate_cons_of_ne_nil (List.cons_ne_nil next rest)]
      rcases List.mem_cons.mp hp with rfl | hp
      · exact List.mem_append_left _ (List.mem_append_left _ hc)
      · exact List.mem_append_right _ (ih hp)

/-! ## Words -/

theorem words_blank {b : Char} (hb : isBlank b = true) (cs : List Char) :
    words (b :: cs) = words cs :=
  words_append_blank hb [] cs

theorem words_blanks_append {blanks : List Char} (h : ∀ c ∈ blanks, isBlank c = true)
    (cs : List Char) : words (blanks ++ cs) = words cs := by
  induction blanks with
  | nil => rfl
  | cons b blanks ih =>
    rw [List.cons_append, words_blank (h b (List.mem_cons_self ..))]
    exact ih fun c hc => h c (List.mem_cons_of_mem b hc)

/-- **Blanks between two texts keep the words of the two apart**, whichever blanks they are. -/
theorem words_append_blanks_append {blanks : List Char} (h : ∀ c ∈ blanks, isBlank c = true)
    (hne : blanks ≠ []) (cs ds : List Char) :
    words (cs ++ blanks ++ ds) = words cs ++ words ds := by
  obtain ⟨b, rest, rfl⟩ := List.exists_cons_of_ne_nil hne
  rw [List.append_assoc, List.cons_append, words_append_blank (h b (List.mem_cons_self ..)),
    words_blanks_append fun c hc => h c (List.mem_cons_of_mem b hc)]

theorem words_append_blanks {blanks : List Char} (h : ∀ c ∈ blanks, isBlank c = true)
    (cs : List Char) : words (cs ++ blanks) = words cs := by
  by_cases hne : blanks = []
  · rw [hne, List.append_nil]
  · have hsplit := words_append_blanks_append h hne cs []
    rw [List.append_nil] at hsplit
    exact hsplit.trans (List.append_nil _)

/-- The blanks at the ends belong to no word. -/
theorem words_trim (cs : List Char) : words (trim cs) = words cs := by
  have hfront : ∀ c ∈ cs.takeWhile isBlank, isBlank c = true :=
    fun c hc => List.mem_takeWhile_imp hc
  have hback : ∀ c ∈ (cs.dropWhile isBlank).rtakeWhile isBlank, isBlank c = true :=
    fun c hc => List.mem_rtakeWhile_imp hc
  calc words (trim cs)
      = words ((cs.dropWhile isBlank).rdropWhile isBlank ++
          (cs.dropWhile isBlank).rtakeWhile isBlank) := (words_append_blanks hback _).symm
    _ = words (cs.dropWhile isBlank) := by rw [List.rdropWhile_append_rtakeWhile]
    _ = words (cs.takeWhile isBlank ++ cs.dropWhile isBlank) := (words_blanks_append hfront _).symm
    _ = words cs := by rw [List.takeWhile_append_dropWhile]

/-- A text without words is blank, and conversely. -/
theorem words_eq_nil_iff {cs : List Char} : words cs = [] ↔ cs.all isBlank = true := by
  induction cs with
  | nil => exact ⟨fun _ => rfl, fun _ => rfl⟩
  | cons c cs ih =>
    by_cases hc : isBlank c = true
    · rw [words_blank hc, ih, List.all_cons, hc, Bool.true_and]
    · -- a character that is no blank stands in the first piece, which is a word then
      obtain ⟨piece, pieces, hsplit⟩ :=
        List.exists_cons_of_ne_nil (List.splitOnP_ne_nil isBlank cs)
      have hword : words (c :: cs) ≠ [] := by
        rw [words, List.splitOnP_cons_eq_if_modifyHead, if_neg hc, hsplit, List.modifyHead_cons,
          List.filter_cons_of_pos rfl]
        exact List.cons_ne_nil _ _
      rw [List.all_cons, Bool.eq_false_iff.mpr hc, Bool.false_and]
      exact ⟨fun h => absurd h hword, fun h => absurd h (by decide)⟩

theorem words_of_forall {word : List Char} (hne : word ≠ []) (h : ∀ c ∈ word, isBlank c = false) :
    words word = [word] := by
  rw [words, List.splitOnP_eq_singleton h]
  simp [hne]

/-- **Words joined by single blanks are the words of the text.** -/
theorem words_intercalate {pieces : List (List Char)} (hne : ∀ word ∈ pieces, word ≠ [])
    (h : ∀ word ∈ pieces, ∀ c ∈ word, isBlank c = false) :
    words ([' '].intercalate pieces) = pieces := by
  induction pieces with
  | nil => rfl
  | cons word rest ih =>
    have hword : words word = [word] :=
      words_of_forall (hne word (List.mem_cons_self ..)) (h word (List.mem_cons_self ..))
    have hrest := ih (fun w hw => hne w (List.mem_cons_of_mem word hw))
      (fun w hw => h w (List.mem_cons_of_mem word hw))
    rcases rest with _ | ⟨next, rest⟩
    · rw [List.intercalate_singleton, hword]
    · rw [List.intercalate_cons_of_ne_nil (List.cons_ne_nil next rest), List.append_assoc]
      -- the blank behind the first word splits the text there
      show words (word ++ ' ' :: [' '].intercalate (next :: rest)) = word :: next :: rest
      rw [words_append_blank (by decide), hword, hrest]
      rfl

/-! ## Lines -/

theorem lines_eq_splitOn (cs : List Char) : lines cs = cs.splitOn '\n' :=
  List.splitOn_eq_splitOnP.symm

/-- **Lines that are each ended by a line feed** are the lines of the text, with nothing behind them. -/
theorem lines_flatMap_newline {pieces : List (List Char)} (h : ∀ line ∈ pieces, '\n' ∉ line) :
    lines (pieces.flatMap (· ++ ['\n'])) = pieces ++ [[]] := by
  induction pieces with
  | nil => rfl
  | cons line rest ih =>
    have hline : lines line = [line] := by
      rw [lines_eq_splitOn, List.splitOn_eq_singleton (h line (List.mem_cons_self ..))]
    rw [List.flatMap_cons, List.append_assoc, List.singleton_append, lines_append_newline, hline,
      ih fun other hother => h other (List.mem_cons_of_mem line hother)]
    rfl

/-- A text is blank exactly if each of its lines is. -/
theorem forall_lines_all_isBlank {cs : List Char} :
    (∀ line ∈ lines cs, line.all isBlank = true) ↔ cs.all isBlank = true := by
  have hjoin : ['\n'].intercalate (lines cs) = cs := by
    rw [lines_eq_splitOn, List.intercalate_splitOn]
  constructor
  · intro h
    rw [List.all_eq_true]
    intro c hc
    rw [← hjoin] at hc
    rcases mem_intercalate hc with hc | ⟨line, hline, hc⟩
    · rw [List.mem_singleton.mp hc]
      decide
    · exact List.all_eq_true.mp (h line hline) c hc
  · intro h line hline
    rw [List.all_eq_true] at h ⊢
    intro c hc
    refine h c ?_
    rw [← hjoin]
    exact mem_intercalate_of_mem hline hc

end Text

namespace Script

open Text

/-- **A text without full lines is blank**, and conversely. -/
theorem fullLines_eq_nil_iff {cs : List Char} : fullLines cs = [] ↔ cs.all Text.isBlank = true := by
  rw [← forall_lines_all_isBlank, fullLines, List.filter_eq_nil_iff]
  constructor
  · intro h line hline
    have hnil := h (trim line) (List.mem_map_of_mem hline)
    rw [Bool.not_eq_true', Bool.not_eq_false, List.isEmpty_iff] at hnil
    exact trim_eq_nil_iff.mp hnil
  · intro h piece hpiece
    obtain ⟨line, hline, rfl⟩ := List.mem_map.mp hpiece
    rw [trim_eq_nil_iff.mpr (h line hline)]
    decide

/-- **Tight lines joined by line feeds are the full lines of the text.** -/
theorem fullLines_intercalate {pieces : List (List Char)} (h : ∀ line ∈ pieces, Tight line)
    (hn : ∀ line ∈ pieces, '\n' ∉ line) : fullLines (['\n'].intercalate pieces) = pieces := by
  rcases pieces with _ | ⟨first, rest⟩
  · rfl
  · rw [fullLines, lines_eq_splitOn, List.splitOn_intercalate '\n' hn (List.cons_ne_nil first rest)]
    have htrim : (first :: rest).map trim = first :: rest := by
      conv_rhs => rw [← List.map_id (first :: rest)]
      exact List.map_congr_left fun line hline => trim_eq_self (h line hline)
    rw [htrim, List.filter_eq_self]
    intro line hline
    simp [(h line hline).ne_nil]

/-- A line feed at the end adds a blank line, which does not count. -/
theorem fullLines_append_newline (cs : List Char) : fullLines (cs ++ ['\n']) = fullLines cs := by
  have hlines : lines (cs ++ ['\n']) = lines cs ++ [[]] := lines_append_newline cs []
  have htrim : trim [] = [] := rfl
  rw [fullLines, hlines, List.map_append, List.filter_append, List.map_singleton, htrim]
  exact List.append_nil _

end Script

end Tileboard
