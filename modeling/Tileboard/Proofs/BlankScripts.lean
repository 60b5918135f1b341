import Tileboard.Journal
import Tileboard.Proofs.Formatting
import Tileboard.Proofs.Regroup

/-!
Scripts without commands.

Whether a script is blank is tested on the text as it is, and whether it has commands is seen only
after it was put in lowercase, cut into lines and trimmed.  The two agree, so a script stands for
the demonstration exactly if it has no commands, and no board is empty that is made from a script.

1. **The two tests** — nothing is left of a script when it is trimmed exactly if it is read and has
   no line (`trim_eq_nil_iff_read`).

2. **The journal** — the record of the demonstration is none of those that placing lines leaves
   (`demonstration_not_mem_placing`), so it tells whether the demonstration was used.

3. **Headline** — `ofScript_by_commands`: what becomes of a script without commands, of one that is
   not read, and of one that is.
-/

namespace Tileboard

namespace Script

/-! ## The two tests -/

/-- **Nothing is left of a script when it is trimmed exactly if it is read and has no line.** -/
theorem trim_eq_nil_iff_read {script : String} :
    Text.trim script.toList = [] ↔ read script = .ok [] := by
  rw [Text.trim_eq_nil_iff, read_eq_ok_nil_iff]
  rfl

end Script

namespace Journal

/-! ## The journal -/

variable {script : String} {size : Size}

/-- The record of a script that stands for the demonstration. -/
def demonstration : Record :=
  ⟨.debug, "empty script, using demonstration grid"⟩

/-- A record whose message begins with another letter is not that of the demonstration. -/
theorem ne_demonstration {r : Record} (h : r.message.toList.head? ≠ some 'e') :
    demonstration ≠ r := by
  rintro rfl
  exact h (by rw [demonstration, String.toList_ofList]; rfl)

theorem demonstration_not_mem_layingOut (size : Size) (packing : Packing) (lines : List Line) :
    demonstration ∉ layingOut size packing lines := by
  intro h
  obtain ⟨b, _, hb⟩ := List.mem_map.mp h
  exact ne_demonstration (by simp [rowBreak]) hb.symm

theorem demonstration_not_mem_choosing (size : Size) (lines : List Line) :
    demonstration ∉ choosing size lines := by
  rw [choosing]
  split
  · intro h
    rcases List.mem_append.mp h with h | h
    · exact demonstration_not_mem_layingOut size .threadRows lines h
    · refine ne_demonstration ?_ (List.mem_singleton.mp h)
      split
      · simp
      · rw [String.toList_ofList]
        nofun
  · exact List.not_mem_nil

/-- **Placing lines leaves no record of the demonstration.** -/
theorem demonstration_not_mem_placing (lines : List Line) (size : Size) :
    demonstration ∉ placing lines size := by
  intro h
  rcases List.mem_append.mp h with h | h
  · rcases List.mem_append.mp h with h | h
    · exact demonstration_not_mem_choosing size lines h
    · exact ne_demonstration (by simp) (List.mem_singleton.mp h)
  · exact demonstration_not_mem_layingOut _ _ _ h

theorem encoding_of_isBlank (h : Script.isBlank script = true) :
    encoding script size = [demonstration] := by
  rw [encoding, if_pos h]
  rfl

theorem encoding_of_read {lines : List Line} (hb : Script.isBlank script = false)
    (h : Script.read script = .ok lines) : encoding script size = placing lines size := by
  simp only [encoding, hb, h, Bool.false_eq_true, if_false]

theorem encoding_of_read_error {error : ScriptError} (hb : Script.isBlank script = false)
    (h : Script.read script = .error error) : encoding script size = [] := by
  simp only [encoding, hb, h, Bool.false_eq_true, if_false]

/-- **The demonstration is recorded exactly for a script that is read and has no line.** -/
theorem demonstration_mem_encoding_iff :
    demonstration ∈ encoding script size ↔ Script.read script = .ok [] := by
  rw [Script.read_eq_ok_nil_iff]
  by_cases hb : Script.isBlank script = true
  · rw [encoding_of_isBlank hb]
    exact ⟨fun _ => hb, fun _ => List.mem_singleton_self _⟩
  · have hfull : Script.isBlank script = false := by simpa using hb
    refine ⟨fun h => ?_, fun h => absurd h hb⟩
    cases hread : Script.read script with
    | error error =>
      rw [encoding_of_read_error hfull hread] at h
      exact absurd h List.not_mem_nil
    | ok lines =>
      rw [encoding_of_read hfull hread] at h
      exact absurd h (demonstration_not_mem_placing lines size)

end Journal

namespace Board

/-! ## What becomes of a script -/

/-- **A script stands for the demonstration exactly if it has no commands.**

* Trimming leaves nothing of a script exactly if it is read and has no line, and exactly then its
  journal says that the demonstration is used.
* A script that is read and has no line makes the demonstration; one that is not read gives its
  error and leaves no record; any other has at least one line, and its lines are placed.
* So a board that is made from a script holds at least one tile. -/
theorem ofScript_by_commands (script : String) (size : Size) :
    (Text.trim script.toList = [] ↔ Script.read script = .ok []) ∧
    (Journal.demonstration ∈ Journal.encoding script size ↔ Script.read script = .ok []) ∧
    (Script.read script = .ok [] ∧ ofScript script size = demo size ∧
        Journal.encoding script size = [Journal.demonstration] ∨
      (∃ error, Script.read script = .error error ∧ ofScript script size = .error error ∧
        Journal.encoding script size = []) ∨
      ∃ lines, lines ≠ [] ∧ Script.read script = .ok lines ∧
        ofScript script size = ofLines lines size ∧
        Journal.encoding script size = Journal.placing lines size) ∧
    ∀ board, ofScript script size = .ok board → board.tokens ≠ [] := by
  refine ⟨Script.trim_eq_nil_iff_read, Journal.demonstration_mem_encoding_iff, ?_, ?_⟩
  · by_cases hb : Script.isBlank script = true
    · refine Or.inl ⟨Script.read_eq_ok_nil_iff.mpr hb, ?_, Journal.encoding_of_isBlank hb⟩
      rw [ofScript, if_pos hb]
    · have hfull : Script.isBlank script = false := by simpa using hb
      cases hread : Script.read script with
      | error error =>
        exact Or.inr (Or.inl ⟨error, rfl, ofScript_of_read_error hfull hread,
          Journal.encoding_of_read_error hfull hread⟩)
      | ok lines =>
        refine Or.inr (Or.inr ⟨lines, ?_, rfl, ofScript_of_read hfull hread,
          Journal.encoding_of_read hfull hread⟩)
        rintro rfl
        exact hb (Script.read_eq_ok_nil_iff.mp hread)
  · intro board h
    exact (ofTokens_tokens_of_ofScript h).2.1

/-- A line separator, a tab and a line feed are no commands, so they make the demonstration. -/
theorem ofScript_by_commands_separators :
    Script.read "\u2028\t\n" = .ok [] ∧
      ∃ board, ofScript "\u2028\t\n" .standard = .ok board ∧ board.tokens ≠ [] := by
  obtain ⟨hread, -, hcases, hne⟩ := ofScript_by_commands "\u2028\t\n" .standard
  have hempty := hread.mp (by decide +kernel)
  obtain ⟨board, hboard⟩ : ∃ board, demo .standard = .ok board :=
    exists_pack_dense_iff.mpr (by decide)
  rcases hcases with ⟨_, hdemo, _⟩ | ⟨error, herror, _⟩ | ⟨lines, hlines, hok, _⟩
  · rw [hboard] at hdemo
    exact ⟨hempty, board, hdemo, hne board hdemo⟩
  · rw [hempty] at herror
    cases herror
  · rw [hempty] at hok
    cases hok
    exact absurd rfl hlines

end Board

end Tileboard
