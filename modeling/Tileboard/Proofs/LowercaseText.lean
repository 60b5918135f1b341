import Tileboard.Text.Blank
import Tileboard.Text.Lowercase

/-!
What lowercasing leaves alone.

The mapping is given by runs of capitals.  Two facts about the table, each checked once on all runs,
decide what reading a script in lowercase can change.

1. **Plain characters** — the only run below code point 0x80 is that of the capitals `A` to `Z`, so
   a text of other ASCII characters is its own lowercase (`lowercase_of_all_isPlain`).

2. **Blanks** — no blank is a capital and no capital becomes a blank, so a text is blank exactly if
   its lowercase is (`all_isBlank_lowercase`).
-/

namespace Tileboard.Text

/-- The ASCII characters that are no capitals. -/
def isPlain (c : Char) : Bool :=
  c.toNat < 0x80 && !(0x41 ≤ c.toNat && c.toNat ≤ 0x5A)

/-! ## The two facts about the table -/

/-- Every run but that of `A` to `Z` lies behind the ASCII characters. -/
theorem caseRuns_ascii : ∀ run ∈ caseRuns,
    (run.first = 0x41 ∧ run.last = 0x5A) ∨ 0x80 ≤ run.first := by
  have h : (caseRuns.all fun run =>
      (run.first == 0x41 && run.last == 0x5A) || 0x80 ≤ run.first) = true := by decide +kernel
  intro run hrun
  have hone := List.all_eq_true.mp h run hrun
  simpa using hone

/-- The capitals of a run and their lowercase letters lie between the blanks. -/
theorem caseRuns_between_blanks : ∀ run ∈ caseRuns, ∀ range ∈ blankRanges,
    (run.last < range.1 ∨ range.2 < run.first) ∧
      ((run.last : Int) + run.shift < range.1 ∨ (range.2 : Int) < run.first + run.shift) := by
  have h : (caseRuns.all fun run => blankRanges.all fun range =>
      (run.last < range.1 || range.2 < run.first) &&
        ((run.last : Int) + run.shift < range.1 ||
          (range.2 : Int) < run.first + run.shift)) = true := by
    decide +kernel
  intro run hrun range hrange
  have hone := List.all_eq_true.mp (List.all_eq_true.mp h run hrun) range hrange
  simpa using hone

theorem CaseRun.contains_iff {run : CaseRun} {code : Nat} : run.contains code = true ↔
    (run.first ≤ code ∧ code ≤ run.last) ∧ (code - run.first) % run.stride = 0 := by
  simp [CaseRun.contains]

/-! ## Plain characters -/

theorem lowerChar_of_isPlain {c : Char} (h : isPlain c = true) : lowerChar c = c := by
  have hnone : caseRuns.find? (·.contains c.toNat) = none := by
    rw [List.find?_eq_none]
    intro run hrun hcontains
    obtain ⟨⟨hfirst, hlast⟩, -⟩ := CaseRun.contains_iff.mp hcontains
    simp only [isPlain, Bool.and_eq_true, Bool.not_eq_true', decide_eq_true_eq,
      Bool.and_eq_false_iff, decide_eq_false_iff_not] at h
    rcases caseRuns_ascii run hrun with ⟨hf, hl⟩ | hf <;> omega
  rw [lowerChar, hnone]

theorem lowerAt_of_isPlain {c : Char} (h : isPlain c = true) (before after : List Char) :
    lowerAt before c after = [c] := by
  have hsigma : c ≠ 'Σ' := by rintro rfl; exact absurd h (by decide)
  have hdotted : c ≠ 'İ' := by rintro rfl; exact absurd h (by decide)
  rw [lowerAt, if_neg hsigma, if_neg hdotted, lowerChar_of_isPlain h]

theorem lowerFrom_of_all_isPlain {cs : List Char} (h : ∀ c ∈ cs, isPlain c = true) :
    ∀ before, lowerFrom before cs = cs := by
  induction cs with
  | nil => intro before; rfl
  | cons c after ih =>
    intro before
    rw [lowerFrom, lowerAt_of_isPlain (h c (List.mem_cons_self ..)),
      ih (fun d hd => h d (List.mem_cons_of_mem c hd))]
    rfl

/-- **A text of plain characters is its own lowercase.** -/
theorem lowercase_of_all_isPlain {cs : List Char} (h : ∀ c ∈ cs, isPlain c = true) :
    lowercase cs = cs :=
  lowerFrom_of_all_isPlain h []

/-! ## Blanks -/

theorem isBlank_eq_false_iff {c : Char} : isBlank c = false ↔
    ∀ range ∈ blankRanges, ¬ (range.1 ≤ c.toNat ∧ c.toNat ≤ range.2) := by
  rw [← Bool.not_eq_true, isBlank, Ranges.contains_iff]
  constructor
  · intro h range hrange hin
    exact h ⟨range, hrange, hin⟩
  · rintro h ⟨range, hrange, hin⟩
    exact h range hrange hin

/-- A code point that is no character stands for the character 0, which is no blank either. -/
theorem isBlank_ofNat_of_forall {n : Nat}
    (h : ∀ range ∈ blankRanges, ¬ (range.1 ≤ n ∧ n ≤ range.2)) :
    isBlank (Char.ofNat n) = false := by
  by_cases hv : n.isValidChar
  · have hn : (Char.ofNat n).toNat = n := by
      rw [Char.ofNat, dif_pos hv]
      rfl
    rwa [isBlank_eq_false_iff, hn]
  · have hn : Char.ofNat n = '\x00' := by
      rw [Char.ofNat, dif_neg hv]
      rfl
    rw [hn]
    decide

/-- No blank is a capital. -/
theorem lowerChar_of_isBlank {c : Char} (h : isBlank c = true) : lowerChar c = c := by
  have hnone : caseRuns.find? (·.contains c.toNat) = none := by
    rw [List.find?_eq_none]
    intro run hrun hcontains
    obtain ⟨⟨hfirst, hlast⟩, -⟩ := CaseRun.contains_iff.mp hcontains
    obtain ⟨range, hrange, hin⟩ := Ranges.contains_iff.mp h
    have := (caseRuns_between_blanks run hrun range hrange).1
    omega
  rw [lowerChar, hnone]

/-- No blank is a capital, and no capital becomes a blank. -/
theorem isBlank_lowerChar (c : Char) : isBlank (lowerChar c) = isBlank c := by
  cases hc : isBlank c with
  | true => rw [lowerChar_of_isBlank hc, hc]
  | false =>
    rw [lowerChar]
    split
    · next run hfind =>
      have hrun := List.mem_of_find?_eq_some hfind
      have hcontains : run.contains c.toNat = true := by
        have hsome := List.find?_some hfind
        exact hsome
      obtain ⟨⟨hfirst, hlast⟩, -⟩ := CaseRun.contains_iff.mp hcontains
      refine isBlank_ofNat_of_forall fun range hrange hin => ?_
      have hshift := (caseRuns_between_blanks run hrun range hrange).2
      have hpos : 0 < range.1 := by
        have hall : ∀ range ∈ blankRanges, 0 < range.1 := by decide
        exact hall range hrange
      rw [CaseRun.lower] at hin
      omega
    · exact hc

theorem all_isBlank_lowerAt (before : List Char) (c : Char) (after : List Char) :
    (lowerAt before c after).all isBlank = isBlank c := by
  rw [lowerAt]
  split
  · next h =>
    -- both forms of the small sigma are letters
    rw [h, lowerSigma]
    split <;> rfl
  · split
    · next h => rw [h]; rfl
    · rw [List.all_cons, List.all_nil, Bool.and_true, isBlank_lowerChar]

/-- **A text is blank exactly if its lowercase is.** -/
theorem all_isBlank_lowercase (cs : List Char) : (lowercase cs).all isBlank = cs.all isBlank := by
  suffices h : ∀ before, (lowerFrom before cs).all isBlank = cs.all isBlank from h []
  induction cs with
  | nil => intro before; rfl
  | cons c after ih =>
    intro before
    rw [lowerFrom, List.all_append, all_isBlank_lowerAt, ih, List.all_cons]

end Tileboard.Text
