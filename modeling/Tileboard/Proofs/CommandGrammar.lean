import Tileboard.Grammar
import Mathlib.Data.Nat.Digits.Defs

/-!
The grammar of commands, said without a reader, and the reader held against it.

1. **Specification** — a numeral is a word of decimal digits, which one plus sign may precede
   (`IsNumeral`).  A command is one of thirteen fixed sequences of words, or one of five sequences
   with a numeral from 1 to 8 behind it (`IsCommand`).

2. **Numerals** — `readSigned?` accepts exactly the numerals, whatever their length, and gives their
   value (`readSigned?_eq_some_iff`).  A numeral begins with a digit or a plus sign, so it is none of
   the words that the grammar knows (`ne_of_isNumeral`).

3. **Completeness** — a command is read as its tile, whatever follows it
   (`readWords_of_isCommand`).  The cases that look at a word before they read it as a numeral are
   where the last fact is needed.

4. **Soundness** — what is read begins with a command that stands for the tile, one lemma for each
   production (`begins_of_readWords`).

Both together are `readLine_accepts`.
-/

namespace Tileboard

namespace Grammar

open Text

/-! ## Specification -/

/-- The word is a numeral with the value `n`: decimal digits, at least one, and nothing before them
but perhaps a plus sign. -/
def IsNumeral (word : String) (n : Nat) : Prop :=
  ∃ digits : List Nat, digits ≠ [] ∧ (∀ d ∈ digits, d < 10) ∧
    (word.toList = digits.map Numeral.digit ∨ word.toList = '+' :: digits.map Numeral.digit) ∧
    n = Nat.ofDigits 10 digits.reverse

/-- The commands without a number. -/
def fixedForms : List (List String × Kind) :=
  [(["thread", "1"], .thread1), (["thread", "2"], .thread2), (["thread", "3"], .thread3),
    (["end", "loop"], .endLoop), (["end", "if"], .endIf), (["end", "function"], .endFunction),
    (["play", "x"], .playX), (["x", "=", "random"], .random),
    (["x", "=", "x", "+", "1"], .add), (["x", "=", "x", "-", "1"], .subtract),
    (["else"], .otherwise), (["function"], .function), (["call", "function"], .functionCall)]

/-- What comes before the number of a command that has one. -/
def numberedForms : List (List String × Kind) :=
  [(["loop"], .loop), (["play"], .play), (["delay"], .delay), (["x", "="], .assign),
    (["if", "x", "<"], .ifBelow)]

/-- The words are a command, and it stands for the tile. -/
inductive IsCommand : List String → Token → Prop
  | fixed {words : List String} {kind : Kind} (h : (words, kind) ∈ fixedForms) :
      IsCommand words (.plain kind)
  | numbered {words : List String} {kind : Kind} {word : String} {n : Nat}
      (h : (words, kind) ∈ numberedForms) (hword : IsNumeral word n) (hn : 1 ≤ n ∧ n ≤ 8) :
      IsCommand (words ++ [word]) ⟨kind, n - 1⟩

/-- The words begin with a command that stands for the tile. -/
def Begins (words : List String) (token : Token) : Prop :=
  ∃ command, command <+: words ∧ IsCommand command token

/-! ## Numerals -/

/-- The characters that count as digits are those of the numbers below ten. -/
theorem exists_digit_of_isDigit {c : Char} (h : c.isDigit = true) :
    ∃ d, d < 10 ∧ Numeral.digit d = c := by
  have hrange : 48 ≤ c.toNat ∧ c.toNat ≤ 57 := Char.isDigit_iff_toNat.mp h
  have hsum : 48 + (c.toNat - 48) = c.toNat := by omega
  refine ⟨c.toNat - 48, by omega, ?_⟩
  rw [Numeral.digit, hsum, Char.ofNat_toNat]

/-- A text of digits is the text of some numbers below ten. -/
theorem exists_digits_of_all_isDigit {cs : List Char} (h : cs.all Char.isDigit = true) :
    ∃ digits : List Nat, (∀ d ∈ digits, d < 10) ∧ cs = digits.map Numeral.digit := by
  induction cs with
  | nil => exact ⟨[], by simp, rfl⟩
  | cons c rest ih =>
    rw [List.all_cons, Bool.and_eq_true] at h
    obtain ⟨d, hd, hc⟩ := exists_digit_of_isDigit h.1
    obtain ⟨digits, hdigits, hrest⟩ := ih h.2
    refine ⟨d :: digits, ?_, by rw [List.map_cons, hc, hrest]⟩
    intro e he
    rcases List.mem_cons.mp he with rfl | he
    · exact hd
    · exact hdigits e he

/-- Reading digits from the left gives their positional value. -/
theorem valueFrom_map_digit {digits : List Nat} (h : ∀ d ∈ digits, d < 10) (start : Nat) :
    Numeral.valueFrom start (digits.map Numeral.digit) =
      10 ^ digits.length * start + Nat.ofDigits 10 digits.reverse := by
  induction digits generalizing start with
  | nil => simp [Numeral.valueFrom]
  | cons d rest ih =>
    have hd : Numeral.value (Numeral.digit d) = d :=
      Numeral.value_digit (h d (List.mem_cons_self ..))
    have hrest := ih (fun e he => h e (List.mem_cons_of_mem d he)) (10 * start + d)
    rw [Nat.ofDigits_reverse_cons, List.length_cons]
    simp only [Numeral.valueFrom, List.map_cons, List.foldl_cons, hd] at hrest ⊢
    rw [hrest]
    ring

theorem read?_eq_some_iff {cs : List Char} {n : Nat} : Numeral.read? cs = some n ↔
    ∃ digits : List Nat, digits ≠ [] ∧ (∀ d ∈ digits, d < 10) ∧
      cs = digits.map Numeral.digit ∧ n = Nat.ofDigits 10 digits.reverse := by
  constructor
  · intro h
    unfold Numeral.read? at h
    split at h
    · next hcs =>
      rw [Bool.and_eq_true] at hcs
      obtain ⟨digits, hdigits, rfl⟩ := exists_digits_of_all_isDigit hcs.2
      rw [valueFrom_map_digit hdigits, Nat.mul_zero, Nat.zero_add] at h
      injection h with h
      refine ⟨digits, ?_, hdigits, rfl, h.symm⟩
      rintro rfl
      exact absurd hcs.1 (by decide)
    · nomatch h
  · rintro ⟨digits, hne, hdigits, rfl, rfl⟩
    have hall : (digits.map Numeral.digit).all Char.isDigit = true := by
      rw [List.all_map, List.all_eq_true]
      exact fun d hd => Numeral.digit_isDigit (hdigits d hd)
    have hsome : (digits.map Numeral.digit).isEmpty = false := by simpa using hne
    rw [Numeral.read?, hsome, hall, valueFrom_map_digit hdigits, Nat.mul_zero, Nat.zero_add]
    rfl

/-- **The words that are read as numbers are the numerals**, and the number is their value. -/
theorem readSigned?_eq_some_iff {word : String} {n : Nat} :
    Numeral.readSigned? word.toList = some n ↔ IsNumeral word n := by
  constructor
  · intro h
    unfold Numeral.readSigned? at h
    split at h
    · next cs hword =>
      obtain ⟨digits, hne, hdigits, rfl, hn⟩ := read?_eq_some_iff.mp h
      exact ⟨digits, hne, hdigits, Or.inr hword, hn⟩
    · obtain ⟨digits, hne, hdigits, hword, hn⟩ := read?_eq_some_iff.mp h
      exact ⟨digits, hne, hdigits, Or.inl hword, hn⟩
  · rintro ⟨digits, hne, hdigits, hword, hn⟩
    have hread : Numeral.read? (digits.map Numeral.digit) = some n :=
      read?_eq_some_iff.mpr ⟨digits, hne, hdigits, rfl, hn⟩
    rcases hword with hword | hword
    · rw [hword]
      unfold Numeral.readSigned?
      split
      · next cs hcs =>
        -- no digit is a plus sign
        rw [hcs] at hread
        nomatch hread
      · exact hread
    · rw [hword]
      exact hread

/-- A numeral is no word that is not read as a number. -/
theorem ne_of_isNumeral {word other : String} {n : Nat} (h : IsNumeral word n)
    (hother : Numeral.readSigned? other.toList = none) : word ≠ other := by
  rintro rfl
  rw [readSigned?_eq_some_iff.mpr h] at hother
  nomatch hother

theorem rotation?_eq_some_iff {word : String} {param : Nat} : rotation? word = some param ↔
    ∃ n, IsNumeral word n ∧ (1 ≤ n ∧ n ≤ 8) ∧ param = n - 1 := by
  constructor
  · intro h
    unfold rotation? at h
    split at h
    · next n hn =>
      split at h
      · next hrange =>
        injection h with h
        exact ⟨n, readSigned?_eq_some_iff.mp hn, hrange, h.symm⟩
      · nomatch h
    · nomatch h
  · rintro ⟨n, hword, hrange, rfl⟩
    simp only [rotation?, readSigned?_eq_some_iff.mpr hword, if_pos hrange]

/-! ## Completeness -/

theorem readNumbered_of_isNumeral {word : String} {n : Nat} (hword : IsNumeral word n)
    (hn : 1 ≤ n ∧ n ≤ 8) (kind : Kind) (rest : List String) :
    readNumbered kind (word :: rest) = .ok ⟨kind, n - 1⟩ := by
  simp only [readNumbered, rotation?_eq_some_iff.mpr ⟨n, hword, hn, rfl⟩]

/-- Before `play` reads a number, it looks for the variable. -/
theorem readPlay_of_isNumeral {word : String} {n : Nat} (hword : IsNumeral word n)
    (hn : 1 ≤ n ∧ n ≤ 8) (rest : List String) :
    readPlay (word :: rest) = .ok ⟨.play, n - 1⟩ := by
  have hx : word ≠ "x" := ne_of_isNumeral hword (by decide)
  unfold readPlay
  split
  · next heq =>
    injection heq with heq _
    exact absurd heq hx
  · exact readNumbered_of_isNumeral hword hn .play rest

/-- Before an assignment reads a number, it looks for the other right-hand sides. -/
theorem readAssignment_of_isNumeral {word : String} {n : Nat} (hword : IsNumeral word n)
    (hn : 1 ≤ n ∧ n ≤ 8) (rest : List String) :
    readAssignment ("=" :: word :: rest) = .ok ⟨.assign, n - 1⟩ := by
  have hx : word ≠ "x" := ne_of_isNumeral hword (by decide)
  have hrandom : word ≠ "random" := ne_of_isNumeral hword (by decide)
  unfold readAssignment
  split
  · next heq => exact absurd (List.cons.inj (List.cons.inj heq).2).1 hrandom
  · next heq => exact absurd (List.cons.inj (List.cons.inj heq).2).1 hx
  · next heq => exact absurd (List.cons.inj (List.cons.inj heq).2).1 hx
  · next heq => exact absurd (List.cons.inj (List.cons.inj heq).2).1 hx
  · next heq =>
    rw [← (List.cons.inj heq).2]
    exact readNumbered_of_isNumeral hword hn .assign rest
  · next hnone => exact absurd rfl (hnone (word :: rest))

/-- **A command is read as its tile**, whatever follows it. -/
theorem readWords_of_isCommand {words : List String} {token : Token} (h : IsCommand words token)
    (line : String) (rest : List String) : readWords line (words ++ rest) = .ok token := by
  cases h with
  | @fixed words kind h =>
    have hall : ∀ form ∈ fixedForms, ∀ rest,
        readWords line (form.1 ++ rest) = .ok (.plain form.2) := by
      simp only [fixedForms, List.forall_mem_cons]
      exact ⟨fun _ => rfl, fun _ => rfl, fun _ => rfl, fun _ => rfl, fun _ => rfl, fun _ => rfl,
        fun _ => rfl, fun _ => rfl, fun _ => rfl, fun _ => rfl, fun _ => rfl, fun _ => rfl,
        fun _ => rfl, by simp⟩
    exact hall (words, kind) h rest
  | @numbered words kind word n h hword hn =>
    have hall : ∀ form ∈ numberedForms,
        readWords line (form.1 ++ word :: rest) = .ok ⟨form.2, n - 1⟩ := by
      simp only [numberedForms, List.forall_mem_cons]
      exact ⟨readNumbered_of_isNumeral hword hn .loop rest, readPlay_of_isNumeral hword hn rest,
        readNumbered_of_isNumeral hword hn .delay rest, readAssignment_of_isNumeral hword hn rest,
        readNumbered_of_isNumeral hword hn .ifBelow rest, by simp⟩
    rw [List.append_assoc]
    exact hall (words, kind) h

/-! ## Soundness -/

theorem begins_of_fixed (words : List String) {kind : Kind} (hform : (words, kind) ∈ fixedForms)
    (rest : List String) {token : Token}
    (h : (Except.ok (.plain kind) : Except LineError Token) = .ok token) :
    Begins (words ++ rest) token := by
  injection h with h
  subst h
  exact ⟨words, List.prefix_append words rest, .fixed hform⟩

theorem begins_of_readNumbered (words : List String) {kind : Kind}
    (hform : (words, kind) ∈ numberedForms) {rest : List String} {token : Token}
    (h : readNumbered kind rest = .ok token) : Begins (words ++ rest) token := by
  unfold readNumbered at h
  split at h
  · nomatch h
  · next word after =>
    split at h
    · next param hparam =>
      injection h with h
      subst h
      obtain ⟨n, hword, hn, rfl⟩ := rotation?_eq_some_iff.mp hparam
      refine ⟨words ++ [word], ⟨after, ?_⟩, .numbered hform hword hn⟩
      rw [List.append_assoc, List.singleton_append]
    · nomatch h

theorem begins_of_readThread {rest : List String} {token : Token}
    (h : readThread rest = .ok token) : Begins ("thread" :: rest) token := by
  unfold readThread at h
  split at h
  · exact begins_of_fixed ["thread", "1"] (by decide) _ h
  · exact begins_of_fixed ["thread", "2"] (by decide) _ h
  · exact begins_of_fixed ["thread", "3"] (by decide) _ h
  · nomatch h

theorem begins_of_readEnd {rest : List String} {token : Token} (h : readEnd rest = .ok token) :
    Begins ("end" :: rest) token := by
  unfold readEnd at h
  split at h
  · exact begins_of_fixed ["end", "loop"] (by decide) _ h
  · exact begins_of_fixed ["end", "if"] (by decide) _ h
  · exact begins_of_fixed ["end", "function"] (by decide) _ h
  · nomatch h

theorem begins_of_readPlay {rest : List String} {token : Token} (h : readPlay rest = .ok token) :
    Begins ("play" :: rest) token := by
  unfold readPlay at h
  split at h
  · exact begins_of_fixed ["play", "x"] (by decide) _ h
  · exact begins_of_readNumbered ["play"] (by decide) h

theorem begins_of_readAssignment {rest : List String} {token : Token}
    (h : readAssignment rest = .ok token) : Begins ("x" :: rest) token := by
  unfold readAssignment at h
  split at h
  · exact begins_of_fixed ["x", "=", "random"] (by decide) _ h
  · exact begins_of_fixed ["x", "=", "x", "+", "1"] (by decide) _ h
  · exact begins_of_fixed ["x", "=", "x", "-", "1"] (by decide) _ h
  · nomatch h
  · exact begins_of_readNumbered ["x", "="] (by decide) h
  · nomatch h

theorem begins_of_readCondition {rest : List String} {token : Token}
    (h : readCondition rest = .ok token) : Begins ("if" :: rest) token := by
  unfold readCondition at h
  split at h
  · exact begins_of_readNumbered ["if", "x", "<"] (by decide) h
  · nomatch h

theorem begins_of_readCall {rest : List String} {token : Token} (h : readCall rest = .ok token) :
    Begins ("call" :: rest) token := by
  unfold readCall at h
  split at h
  · exact begins_of_fixed ["call", "function"] (by decide) _ h
  · nomatch h

/-- **What is read begins with a command**, which stands for the tile. -/
theorem begins_of_readWords {line : String} {words : List String} {token : Token}
    (h : readWords line words = .ok token) : Begins words token := by
  unfold readWords at h
  split at h
  · exact begins_of_readThread h
  · exact begins_of_readNumbered ["loop"] (by decide) h
  · exact begins_of_readEnd h
  · exact begins_of_readPlay h
  · exact begins_of_readNumbered ["delay"] (by decide) h
  · exact begins_of_readAssignment h
  · exact begins_of_readCondition h
  · exact begins_of_fixed ["else"] (by decide) _ h
  · exact begins_of_fixed ["function"] (by decide) _ h
  · exact begins_of_readCall h
  · nomatch h

/-! ## The language of the reader -/

theorem readLine_eq_ok_iff {line : String} {token : Token} :
    readLine line = .ok token ↔ Begins (wordsOf line) token := by
  constructor
  · exact begins_of_readWords
  · rintro ⟨command, ⟨rest, hrest⟩, hcommand⟩
    rw [readLine, ← hrest]
    exact readWords_of_isCommand hcommand line rest

/-- A command stands for a tile whose kind has its rotation. -/
theorem valid_of_isCommand {words : List String} {token : Token} (h : IsCommand words token) :
    token.valid = true := by
  cases h with
  | fixed _ => exact Token.plain_valid _
  | @numbered words kind word n hform hword hn =>
    have hmax : ∀ form ∈ numberedForms, form.2.maxParam = 7 := by decide
    have hle : n - 1 ≤ kind.maxParam := by
      rw [hmax (words, kind) hform]
      omega
    exact decide_eq_true hle

/-- **The grammar never gives a tile whose kind does not have its rotation.** -/
theorem valid_of_readLine {line : String} {token : Token} (h : readLine line = .ok token) :
    token.valid = true := by
  obtain ⟨command, -, hcommand⟩ := readLine_eq_ok_iff.mp h
  exact valid_of_isCommand hcommand

/-- **The lines that are read are those that begin with a command.**  A line gives a tile exactly if
its first words are a command that stands for the tile, whatever words follow; and a tile that is
given is valid. -/
theorem readLine_accepts (line : String) (token : Token) :
    (readLine line = .ok token ↔
      ∃ command, command <+: wordsOf line ∧ IsCommand command token) ∧
    (readLine line = .ok token → token.valid = true) :=
  ⟨readLine_eq_ok_iff, valid_of_readLine⟩

/-- A line with uneven blanks, a plus sign, leading zeros and a word too many. -/
theorem readLine_accepts_padded_number :
    readLine "play  \t +0003 loudly" = .ok ⟨.play, 2⟩ ∧ (⟨.play, 2⟩ : Token).valid = true := by
  have hwords : wordsOf "play  \t +0003 loudly" = ["play", "+0003", "loudly"] := by decide +kernel
  have hnumeral : IsNumeral "+0003" 3 := ⟨[0, 0, 0, 3], by decide, by decide, by decide, by decide⟩
  have hread : readLine "play  \t +0003 loudly" = .ok ⟨.play, 2⟩ := by
    refine (readLine_accepts _ _).1.mpr ⟨["play", "+0003"], ?_, ?_⟩
    · rw [hwords]
      decide
    · have hform : (["play"], Kind.play) ∈ numberedForms := by decide
      exact .numbered hform hnumeral (by decide)
  exact ⟨hread, (readLine_accepts _ _).2 hread⟩

end Grammar

end Tileboard
