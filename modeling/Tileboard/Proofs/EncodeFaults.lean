import Tileboard.Proofs.CommandParts
import Tileboard.Proofs.Formatting
import Tileboard.Proofs.PackingsAgree
import Tileboard.Proofs.WholeWrites

/-!
What can be wrong when a script is encoded, and what the file system is afterwards.

1. **Faults** — five things can be wrong with a call that encodes, each said by itself: the size, the
   file that is read, a line of the script, the length of the script, and the file that is written
   (`encodeFaults`).  Several of them can be present at once.

2. **The board** — a script has a board exactly if neither a line nor its length is at fault, and the
   line decides if both are (`ofScript_of_lineFault`, `ofScript_of_lengthFault`,
   `exists_ofScript_of_no_fault`).

3. **The command** — it fails for the first fault, and nothing has changed (`run_of_fault`).  Without
   a fault the board has been written, and nothing else has changed (`exists_run_of_no_fault`).

4. **The call** — `encode_all_or_nothing`, on every file system in which a write is refused or whole.
-/

namespace Tileboard

/-! ## Faults -/

/-- Why there is no result, if there is none. -/
def failure? {ε α : Type} : Except ε α → Option ε
  | .error error => some error
  | .ok _ => none

@[simp] theorem failure?_error {ε α : Type} (error : ε) :
    failure? (.error error : Except ε α) = some error :=
  rfl

@[simp] theorem failure?_ok {ε α : Type} (a : α) : failure? (.ok a : Except ε α) = none :=
  rfl

theorem failure?_eq_some_iff {ε α : Type} {result : Except ε α} {error : ε} :
    failure? result = some error ↔ result = .error error := by
  cases result with
  | error other => simp
  | ok a => simp

theorem failure?_eq_none_iff {ε α : Type} {result : Except ε α} :
    failure? result = none ↔ ∃ a, result = .ok a := by
  cases result with
  | error error => simp
  | ok a => simp

namespace Script

/-- How many tiles a script stands for, if its lines are commands. -/
def tileCount (script : String) : Nat :=
  if isBlank script then Board.demoProgram.length else (commands script).length

/-- The fault of a script with a line that is no command. -/
def lineFault? (script : String) : Option ScriptError :=
  failure? (read script)

/-- The fault of a script that stands for more tiles than there are cells. -/
def lengthFault? (rows cols : Nat) (script : String) : Option ScriptError :=
  if rows * cols < tileCount script then some (.overflow rows) else none

end Script

namespace Command

open WholeWrites

variable {σ : Type} [FileAccess (StateM σ)] [WholeWrites σ]

/-- The text of the file at a path. -/
def textAt (s : σ) (path : String) : Except AccessError String :=
  textOf (read s path)

/-- All that is wrong with a call that encodes, in the order in which it counts.  A script that
cannot be read has no faults of its own. -/
def encodeFaults (s : σ) (input output : String) (rows cols : Nat) : List CommandError :=
  let script? := (textAt s input).toOption
  [(failure? (Size.make rows cols)).map .size,
    (failure? (textAt s input)).map (.reading input),
    (script?.bind Script.lineFault?).map (.encoding input),
    (script?.bind (Script.lengthFault? rows cols)).map (.encoding input),
    (failure? (opens s output)).map (.writing output)].filterMap id

end Command

/-! ## The board -/

namespace Board

variable {size : Size} {script : String} {error : ScriptError}

/-- A line that is no command decides the error. -/
theorem ofScript_of_lineFault (h : Script.lineFault? script = some error) :
    ofScript script size = .error error := by
  have hread : Script.read script = .error error := failure?_eq_some_iff.mp h
  refine ofScript_of_read_error (eq_false_of_ne_true fun hblank => ?_) hread
  -- a script of blanks has no lines
  rw [Script.read_eq_ok_nil_iff.mpr hblank] at hread
  nomatch hread

/-- A script whose lines are commands has as many lines for its board as it stands for tiles. -/
theorem exists_ofScript_eq_ofLines (h : Script.lineFault? script = none) (size : Size) :
    ∃ lines, ofScript script size = ofLines lines size ∧
      lines.length = Script.tileCount script := by
  obtain ⟨lines, hread⟩ := failure?_eq_none_iff.mp h
  by_cases hblank : Script.isBlank script = true
  · refine ⟨Script.ofTokens demoProgram, ?_, ?_⟩
    · rw [ofScript, if_pos hblank, demo_eq_ofTokens, ofTokens]
    · rw [Script.tileCount, if_pos hblank, Script.length_ofTokens]
  · refine ⟨lines, ofScript_of_read (eq_false_of_ne_true hblank) hread, ?_⟩
    rw [Script.tileCount, if_neg hblank, Script.length_of_read hread]

/-- A script of commands that is too long gives the error of its length. -/
theorem ofScript_of_lengthFault (hline : Script.lineFault? script = none)
    (h : Script.lengthFault? size.rows size.cols script = some error) :
    ofScript script size = .error error := by
  obtain ⟨lines, hlines, hlength⟩ := exists_ofScript_eq_ofLines hline size
  unfold Script.lengthFault? at h
  split at h
  · next hlong =>
    injection h with h
    subst h
    rw [hlines]
    exact ofLines_of_lt_length (hlength ▸ hlong)
  · nomatch h

/-- **A script without a fault has a board.** -/
theorem exists_ofScript_of_no_fault (hline : Script.lineFault? script = none)
    (h : Script.lengthFault? size.rows size.cols script = none) :
    ∃ board, ofScript script size = .ok board := by
  obtain ⟨lines, hlines, hlength⟩ := exists_ofScript_eq_ofLines hline size
  unfold Script.lengthFault? at h
  split at h
  · nomatch h
  · next hfits =>
    have hfit : lines.length ≤ size.area := hlength ▸ Nat.not_lt.mp hfits
    rw [hlines]
    exact ofLines_of_length_le hfit

end Board

/-! ## The command -/

namespace Command

open WholeWrites

variable {σ : Type} [FileAccess (StateM σ)] [WholeWrites σ] {s : σ} {input output : String}
  {rows cols : Nat}

/-- Reading gives the text that is there, and changes nothing. -/
theorem readText_textAt (s : σ) (path : String) :
    (FileAccess.readText path : StateM σ _) s = (textAt s path, s) :=
  WholeWrites.readText_apply path s

/-- A call has no fault if each part of it has none. -/
theorem encodeFaults_eq_nil_iff : encodeFaults s input output rows cols = [] ↔
    (∃ size, Size.make rows cols = .ok size) ∧
      (∃ script, textAt s input = .ok script ∧ Script.lineFault? script = none ∧
        Script.lengthFault? rows cols script = none) ∧
      ∃ location, opens s output = .ok location := by
  rw [← failure?_eq_none_iff, ← failure?_eq_none_iff]
  rcases htext : textAt s input with error | script
  · simp [encodeFaults, htext]
  · simp [encodeFaults, htext, Except.toOption, and_assoc]

/-- **The first fault is the failure**, and the state is as it was. -/
theorem run_of_fault {error : CommandError}
    (h : (encodeFaults s input output rows cols).head? = some error) :
    (run (.encode input output rows cols) : ExceptT CommandError (StateM σ) String).run s =
      (.error error, s) := by
  have decides {fault : CommandError}
      (hfault : (encodeFaults s input output rows cols).head? = some fault) : fault = error :=
    Option.some.inj (hfault.symm.trans h)
  rw [encode_apply, readText_textAt]
  cases hsize : Size.make rows cols with
  | error sizeError =>
    obtain rfl : .size sizeError = error := decides (by simp [encodeFaults, hsize])
    rfl
  | ok size =>
  obtain ⟨rfl, rfl⟩ := Size.make_eq_ok_iff.mp hsize
  cases htext : textAt s input with
  | error readError =>
    obtain rfl : .reading input readError = error := decides (by simp [encodeFaults, hsize, htext])
    rfl
  | ok script =>
  simp only
  cases hline : Script.lineFault? script with
  | some lineError =>
    obtain rfl : .encoding input lineError = error := decides
      (by simp [encodeFaults, hsize, htext, hline, Except.toOption])
    rw [Board.ofScript_of_lineFault hline]
  | none =>
  cases hlength : Script.lengthFault? size.rows size.cols script with
  | some lengthError =>
    obtain rfl : .encoding input lengthError = error := decides
      (by simp [encodeFaults, hsize, htext, hline, hlength, Except.toOption])
    rw [Board.ofScript_of_lengthFault hline hlength]
  | none =>
  -- there is a board, and nothing but its output can be at fault
  obtain ⟨board, hboard⟩ := Board.exists_ofScript_of_no_fault hline hlength
  rw [hboard]
  cases hopens : opens s output with
  | error writeError =>
    obtain rfl : .writing output writeError = error := decides
      (by simp [encodeFaults, hsize, htext, hline, hlength, hopens, Except.toOption])
    simp only [writeText_of_refused hopens]
  | ok location =>
    have hnil : encodeFaults s input output size.rows size.cols = [] := encodeFaults_eq_nil_iff.mpr
      ⟨⟨size, hsize⟩, ⟨script, htext, hline, hlength⟩, location, hopens⟩
    rw [hnil] at h
    nomatch h

/-- **Without a fault the board is written**, and nothing else has changed. -/
theorem exists_run_of_no_fault (h : encodeFaults s input output rows cols = []) :
    ∃ size script board location s', Size.make rows cols = .ok size ∧
      textAt s input = .ok script ∧ Board.ofScript script size = .ok board ∧
      opens s output = .ok location ∧
      (run (.encode input output rows cols) : ExceptT CommandError (StateM σ) String).run s =
        (.ok "", s') ∧
      entry s' location = some (.file board.fileText.toUTF8) ∧
      (∀ other, other ≠ location → entry s' other = entry s other) ∧
      read s' output = .ok board.fileText.toUTF8 := by
  obtain ⟨⟨size, hsize⟩, ⟨script, htext, hline, hlength⟩, location, hopens⟩ :=
    encodeFaults_eq_nil_iff.mp h
  obtain ⟨rfl, rfl⟩ := Size.make_eq_ok_iff.mp hsize
  obtain ⟨board, hboard⟩ := Board.exists_ofScript_of_no_fault hline hlength
  obtain ⟨s', hwrite, hentry, hothers, hread⟩ := writeText_of_opened hopens board.fileText
  refine ⟨size, script, board, location, s', hsize, htext, hboard, hopens, ?_, hentry, hothers,
    hread⟩
  rw [encode_apply, readText_textAt, hsize, htext]
  simp only [hboard, hwrite]

end Command

/-! ## The call -/

namespace CommandLine

open Command WholeWrites

/-- **A call that encodes changes all that it should, or nothing.**  On every file system in which a
write is refused or whole, whatever the arguments, the script and the files that are there:

* if anything is wrong, the call fails with 1 for the first thing that is, and no file or folder has
  been made, changed or removed;
* if nothing is wrong, it succeeds with 0, the output is the file of the board that the script in the
  input had before it was written, and no other location has changed.  The output may be the input. -/
theorem encode_all_or_nothing {σ : Type} [FileAccess (StateM σ)] [WholeWrites σ]
    {arguments : List String} {input output : String} {rows cols : Nat}
    (h : parse arguments = some (.run (.encode input output rows cols))) (s : σ) :
    (∀ error, (encodeFaults s input output rows cols).head? = some error →
      (execute arguments : StateM σ Outcome) s =
        (⟨1, "", "Error: " ++ error.message ++ "\n"⟩, s)) ∧
    (encodeFaults s input output rows cols = [] →
      ∃ size script board location s', Size.make rows cols = .ok size ∧
        textAt s input = .ok script ∧ Board.ofScript script size = .ok board ∧
        opens s output = .ok location ∧
        (execute arguments : StateM σ Outcome) s = (⟨0, "", ""⟩, s') ∧
        entry s' location = some (.file board.fileText.toUTF8) ∧
        (∀ other, other ≠ location → entry s' other = entry s other) ∧
        read s' output = .ok board.fileText.toUTF8) := by
  refine ⟨fun error hfault => ?_, fun hnone => ?_⟩
  · rw [execute_of_parse h, run_of_fault hfault]
  · obtain ⟨size, script, board, location, s', hsize, htext, hboard, hopens, hrun, hafter⟩ :=
      exists_run_of_no_fault hnone
    refine ⟨size, script, board, location, s', hsize, htext, hboard, hopens, ?_, hafter⟩
    rw [execute_of_parse h, hrun]

/-- On one disk, four things are wrong with a call and it fails for the size; a file that is no text
decides although the output is a folder; and a script is replaced by the file of its own board. -/
theorem encode_all_or_nothing_on_disk :
    let disk : Disk := ⟨[(["w"], .folder), (["w", "d"], .folder), (["w", "b"], .file ⟨#[255]⟩),
      (["w", "s"], .file "play 1\njump".toUTF8), (["w", "p"], .file "play 1".toUTF8)], ["w"]⟩
    (encodeFaults disk "s" "d" 1 0 = [.size .empty, .encoding "s" (.line 2 (.unknownCommand "jump")),
        .encoding "s" (.overflow 1), .writing "d" .isFolder] ∧
      (execute ["encode", "s", "d", "--rows", "1", "--cols", "0"] : StateM Disk Outcome) disk =
        (⟨1, "", "Error: Invalid grid size: grid must have at least one row and column\n"⟩, disk)) ∧
    (encodeFaults disk "b" "d" 1 1 = [.reading "b" .notText, .writing "d" .isFolder] ∧
      (execute ["encode", "b", "d", "--rows", "1", "--cols", "1"] : StateM Disk Outcome) disk =
        (⟨1, "", "Error: Reading b: stream did not contain valid UTF-8\n"⟩, disk)) ∧
    ∃ (board : Board) (disk' : Disk),
      Board.ofScript "play 1" ⟨1, 1, by decide, by decide, by decide⟩ = .ok board ∧
      (execute ["encode", "p", "p", "--rows", "1", "--cols", "1"] : StateM Disk Outcome) disk =
        (⟨0, "", ""⟩, disk') ∧
      disk'.read "p" = .ok board.fileText.toUTF8 ∧
      ∀ place, place ≠ ["w", "p"] → disk'.lookup place = disk.lookup place := by
  intro disk
  have parse₁ : parse ["encode", "s", "d", "--rows", "1", "--cols", "0"] =
      some (.run (.encode "s" "d" 1 0)) := by decide +kernel
  have parse₂ : parse ["encode", "b", "d", "--rows", "1", "--cols", "1"] =
      some (.run (.encode "b" "d" 1 1)) := by decide +kernel
  have parse₃ : parse ["encode", "p", "p", "--rows", "1", "--cols", "1"] =
      some (.run (.encode "p" "p" 1 1)) := by decide +kernel
  have faults₁ : encodeFaults disk "s" "d" 1 0 =
      [.size .empty, .encoding "s" (.line 2 (.unknownCommand "jump")),
        .encoding "s" (.overflow 1), .writing "d" .isFolder] := by decide +kernel
  have faults₂ : encodeFaults disk "b" "d" 1 1 =
      [.reading "b" .notText, .writing "d" .isFolder] := by decide +kernel
  have faults₃ : encodeFaults disk "p" "p" 1 1 = [] := by decide +kernel
  refine ⟨⟨faults₁, ?_⟩, ⟨faults₂, ?_⟩, ?_⟩
  · exact (encode_all_or_nothing parse₁ disk).1 (.size .empty) (by rw [faults₁]; rfl)
  · exact (encode_all_or_nothing parse₂ disk).1 (.reading "b" .notText) (by rw [faults₂]; rfl)
  · obtain ⟨size, script, board, place, disk', hsize, htext, hboard, hopens, hrun, -, hothers,
      hread⟩ := (encode_all_or_nothing parse₃ disk).2 faults₃
    obtain rfl : (⟨1, 1, by decide, by decide, by decide⟩ : Size) = size :=
      Except.ok.inj ((show Size.make 1 1 = .ok _ from rfl).symm.trans hsize)
    obtain rfl : "play 1" = script :=
      Except.ok.inj ((show textAt disk "p" = .ok "play 1" by decide +kernel).symm.trans htext)
    obtain rfl : ["w", "p"] = place :=
      Except.ok.inj ((show disk.opens "p" = .ok ["w", "p"] by decide +kernel).symm.trans hopens)
    exact ⟨board, disk', hboard, hrun, hread, hothers⟩

end CommandLine

end Tileboard
