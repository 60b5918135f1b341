import Tileboard.Proofs.CommandRuns
import Tileboard.Proofs.EncodeFaults
import Tileboard.Proofs.PlainFiles

/-!
The files that a call leaves behind that decodes a board, whatever goes wrong.

1. **Written scripts** — a written script has a line feed behind each command (`toList_endLine_text`).
   So it is empty or ends in one line feed (`endsOnce_endLine_text`), and the script of the whole board
   is made of those of the three threads (`endLine_flatText`), whichever of them are empty.

2. **The command** — if there is no board in the input, nothing has changed (`decode_of_unreadable`,
   `decode_of_unloadable`).  Otherwise the folder is made, and the scripts are written into it up to the
   first that cannot be opened (`exists_decode`).

3. **The call** — `decode_writes_until_refused`, on every file system of plain files.
-/

namespace Tileboard

/-! ## Written scripts -/

namespace Command

/-- The text is empty, or it ends in one line feed. -/
def EndsOnce (text : String) : Prop :=
  text = "" ∨ ∃ init c, text.toList = init ++ [c, '\n'] ∧ c ≠ '\n'

/-- A script that is written for tiles has no blank at either end, since no command has. -/
theorem tight_joinLines_text {tokens : List Token} (hne : tokens ≠ []) :
    Text.Tight (Lanes.joinLines (tokens.map Token.text)).toList := by
  rw [Script.toList_joinLines, List.map_map]
  refine Text.tight_intercalate (by simpa using hne) fun piece hpiece => ?_
  obtain ⟨token, -, rfl⟩ := List.mem_map.mp hpiece
  exact token.tight_text

theorem toList_endLine_of_ne {tokens : List Token} (hne : tokens ≠ []) :
    (endLine (Lanes.joinLines (tokens.map Token.text))).toList =
      (Lanes.joinLines (tokens.map Token.text)).toList ++ ['\n'] := by
  have htext : Lanes.joinLines (tokens.map Token.text) ≠ "" := fun hempty =>
    (tight_joinLines_text hne).ne_nil (by rw [hempty]; rfl)
  rw [endLine, if_neg htext, String.toList_append]
  rfl

/-- **A written script has a line feed behind each command.** -/
theorem toList_endLine_text (tokens : List Token) :
    (endLine (Lanes.joinLines (tokens.map Token.text))).toList =
      tokens.flatMap fun token => token.text.toList ++ ['\n'] := by
  by_cases hne : tokens = []
  · rw [hne]
    rfl
  · rw [toList_endLine_of_ne hne, Script.toList_joinLines, List.map_map,
      Text.intercalate_append_separator _ (by simpa using hne), List.flatMap_map]
    rfl

/-- **A written script is empty or ends in one line feed.** -/
theorem endsOnce_endLine_text (tokens : List Token) :
    EndsOnce (endLine (Lanes.joinLines (tokens.map Token.text))) := by
  by_cases hne : tokens = []
  · rw [hne]
    exact .inl rfl
  · obtain ⟨-, init, c, htext, hc⟩ := tight_joinLines_text hne
    refine .inr ⟨init, c, ?_, ?_⟩
    · rw [toList_endLine_of_ne hne, htext, List.append_assoc]
      rfl
    · rintro rfl
      exact absurd hc (by decide)

/-- **The script of a board is made of those of its threads**, whichever of them are empty. -/
theorem endLine_flatText (lanes : Lanes Token) :
    endLine (lanes.map Token.text).flatText = endLine ((lanes.map Token.text).text .first) ++
      endLine ((lanes.map Token.text).text .second) ++
      endLine ((lanes.map Token.text).text .third) := by
  have hflat : (lanes.map Token.text).flatten = lanes.flatten.map Token.text := by
    simp [Lanes.flatten, Lanes.map]
  refine String.toList_injective ?_
  rw [Lanes.flatText, hflat, String.toList_append, String.toList_append, Lanes.text, Lanes.text,
    Lanes.text, Lanes.get_map, Lanes.get_map, Lanes.get_map]
  simp only [toList_endLine_text, Lanes.flatten, Lanes.get, List.flatMap_append]

/-! ## The command -/

open WholeWrites

variable {σ : Type} [FileAccess (StateM σ)] [PlainFiles σ] {s s₁ : σ} {input output text : String}

theorem isName_of_mem_scriptFiles {scripts : Lanes String} :
    ∀ file ∈ scriptFiles scripts, Disk.IsName file.1 :=
  fun _ hfile => isName_of_mem_scriptNames _ (fst_mem_scriptNames hfile)

/-- Loading a board changes nothing. -/
theorem loadBoard_textAt (input : String) (s : σ) :
    (loadBoard input : ExceptT CommandError (StateM σ) Board).run s =
      match textAt s input with
      | .error error => (.error (.reading input error), s)
      | .ok text =>
        match Board.load text with
        | .error error => (.error (.loading error), s)
        | .ok board => (.ok board, s) := by
  rw [loadBoard_apply, readText_textAt]
  rcases textAt s input with error | text
  · rfl
  · rfl

/-- **Without a text there is no command**, and nothing changes. -/
theorem decode_of_unreadable {error : AccessError} (h : textAt s input = .error error) :
    (run (.decode input output) : ExceptT CommandError (StateM σ) String).run s =
      (.error (.reading input error), s) := by
  rw [decode_apply, loadBoard_textAt, h]

/-- **Without a board nothing changes.** -/
theorem decode_of_unloadable {error : LoadError} (h : textAt s input = .ok text)
    (hload : Board.load text = .error error) :
    (run (.decode input output) : ExceptT CommandError (StateM σ) String).run s =
      (.error (.loading error), s) := by
  rw [decode_apply, loadBoard_textAt, h]
  simp only [hload]

/-- A folder that cannot be made is the failure, and what is there then stays. -/
theorem decode_of_no_folder {board : Board} {error : AccessError} (h : textAt s input = .ok text)
    (hload : Board.load text = .ok board)
    (hmade : (makeFolders output : StateM σ _) s = (.error error, s₁)) :
    (run (.decode input output) : ExceptT CommandError (StateM σ) String).run s =
      (.error (.creating output error), s₁) := by
  rw [decode_apply, loadBoard_textAt, h]
  simp only [hload, hmade]

/-- **The scripts of the board are written up to the first that cannot be opened.** -/
theorem exists_decode {board : Board} (h : textAt s input = .ok text)
    (hload : Board.load text = .ok board)
    (hmade : (makeFolders output : StateM σ _) s = (.ok (), s₁)) :
    ∃ result s', (run (.decode input output) : ExceptT CommandError (StateM σ) String).run s =
        (result, s') ∧
      Wrote output (openable s₁ output (scriptFiles board.scripts)) s₁ s' ∧
      (result = .ok "" ∧
          openable s₁ output (scriptFiles board.scripts) = scriptFiles board.scripts ∨
        ∃ file rest error, scriptFiles board.scripts =
            openable s₁ output (scriptFiles board.scripts) ++ file :: rest ∧
          opens s' (inFolder output file.1) = .error error ∧
          result = .error (.writingScripts error)) := by
  obtain ⟨written, s', hrun, hwrote, hresult⟩ := exists_writeAll output
    isName_of_mem_scriptFiles (nodup_scriptFiles board.scripts) s₁
  rw [decode_apply, loadBoard_textAt, h]
  simp only [hload, hmade, hrun]
  rcases hresult with ⟨rfl, hall⟩ | ⟨file, rest, error, hfiles, hopens, rfl⟩
  · exact ⟨_, s', rfl, hwrote, .inl ⟨rfl, hall⟩⟩
  · exact ⟨_, s', rfl, hwrote, .inr ⟨file, rest, error, hfiles, hopens, rfl⟩⟩

/-- **Where all scripts are written**, the bytes of the whole one are those of the three. -/
theorem exists_holds_scripts {board : Board} {s' : σ}
    (h : Wrote output (scriptFiles board.scripts) s₁ s') :
    ∃ first second third : String, (EndsOnce first ∧ EndsOnce second ∧ EndsOnce third) ∧
      Holds s' (inFolder output "thread_1.txt") first.toUTF8 ∧
      Holds s' (inFolder output "thread_2.txt") second.toUTF8 ∧
      Holds s' (inFolder output "thread_3.txt") third.toUTF8 ∧
      Holds s' (inFolder output "script.txt")
        (first.toUTF8 ++ second.toUTF8 ++ third.toUTF8) := by
  have hends (lane : Lane) : EndsOnce (endLine (board.scripts.text lane)) := by
    rw [Board.scripts, Lanes.text, Lanes.get_map]
    exact endsOnce_endLine_text _
  have hflat : (endLine board.scripts.flatText).toUTF8 =
      (endLine (board.scripts.text .first)).toUTF8 ++
        (endLine (board.scripts.text .second)).toUTF8 ++
        (endLine (board.scripts.text .third)).toUTF8 := by
    rw [Board.scripts, endLine_flatText]
    exact ByteArray.ext rfl
  have holds (name text : String) (hfile : (name, text) ∈ scriptFiles board.scripts) :
      Holds s' (inFolder output name) text.toUTF8 := h.holds _ hfile
  refine ⟨_, _, _, ⟨hends .first, hends .second, hends .third⟩, holds _ _ ?_, holds _ _ ?_,
    holds _ _ ?_, hflat ▸ holds _ _ (script_mem_scriptFiles board.scripts)⟩
  all_goals simp [scriptFiles]

end Command

/-! ## The call -/

namespace CommandLine

open Command WholeWrites

section Calls

variable {σ : Type} [FileAccess (StateM σ)] [PlainFiles σ] {s s₁ s' : σ} {arguments : List String}
  {input output text : String}

/-- What a call has left behind that was to write files into a folder, one after the other. -/
structure WroteUntilRefused (folder : String) (files : List (String × String)) (s s' : σ)
    (outcome : Outcome) : Prop where
  /-- The files in front of the first that cannot be opened hold their texts, and no location of
  another file has changed. -/
  wrote : Wrote folder (openable s folder files) s s'
  /-- Files that were not written are as they were. -/
  entry_eq : ∀ file ∈ files, file ∉ openable s folder files → ∀ location,
    opens s (inFolder folder file.1) = .ok location → entry s' location = entry s location
  /-- The call has succeeded exactly if all files were written. -/
  exitCode_iff : outcome.exitCode = 0 ↔ openable s folder files = files
  outcome_of_all : openable s folder files = files → outcome = ⟨0, "", ""⟩
  /-- The first file that cannot be opened is the failure. -/
  outcome_of_refused : ∀ file rest, files = openable s folder files ++ file :: rest → ∃ error,
    opens s' (inFolder folder file.1) = .error error ∧
      outcome = ⟨1, "", "Error: " ++ (CommandError.writingScripts error).message ++ "\n"⟩

/-- A call that finds its folder writes the scripts until one is refused. -/
theorem exists_wroteUntilRefused {board : Board}
    (h : parse arguments = some (.run (.decode input output))) (htext : textAt s input = .ok text)
    (hload : Board.load text = .ok board)
    (hmade : (makeFolders output : StateM σ _) s = (.ok (), s₁)) :
    ∃ outcome s', (execute arguments : StateM σ Outcome) s = (outcome, s') ∧
      WroteUntilRefused output (scriptFiles board.scripts) s₁ s' outcome := by
  obtain ⟨result, s', hrun, hwrote, hresult⟩ := exists_decode htext hload hmade
  have hentry : ∀ file ∈ scriptFiles board.scripts,
      file ∉ openable s₁ output (scriptFiles board.scripts) → ∀ location,
        opens s₁ (inFolder output file.1) = .ok location → entry s' location = entry s₁ location :=
    fun file hfile hnot location => hwrote.entry_eq_of_not_mem isName_of_mem_scriptFiles
      (nodup_scriptFiles board.scripts) hfile hnot
  rw [execute_of_parse h, hrun]
  rcases hresult with ⟨rfl, hall⟩ | ⟨file, rest, error, hfiles, hopens, rfl⟩
  · refine ⟨_, s', rfl, hwrote, hentry, iff_of_true rfl hall, fun _ => rfl, ?_⟩
    intro file rest hfiles
    rw [hall] at hfiles
    simp at hfiles
  · have hpart : openable s₁ output (scriptFiles board.scripts) ≠ scriptFiles board.scripts := by
      intro hall
      rw [hall] at hfiles
      simp at hfiles
    refine ⟨_, s', rfl, hwrote, hentry, iff_of_false (by simp) hpart, fun hall => (hpart hall).elim, ?_⟩
    intro other others hothers
    obtain ⟨rfl, -⟩ := List.cons.inj (List.append_cancel_left (hfiles.symm.trans hothers))
    exact ⟨error, hopens, rfl⟩

end Calls

/-- **A call that decodes writes the scripts one after the other, until one is refused.**  On every file
system of plain files, whatever the arguments and the files that are there:

* if the input is no text or no board, the call fails with 1, and nothing has changed;
* making the output folder adds folders at most, and if that fails, the call fails with 1 there;
* otherwise the scripts are written up to the first that cannot be opened, and the call succeeds with 0
  exactly if there is none (`WroteUntilRefused`);
* if it succeeds, the bytes of the whole script are those of the three threads' scripts, each of which
  is empty or ends in one line feed.

The scripts are those of the board that was in the input, which may be one of the files written. -/
theorem decode_writes_until_refused {σ : Type} [FileAccess (StateM σ)] [PlainFiles σ]
    {arguments : List String} {input output : String}
    (h : parse arguments = some (.run (.decode input output))) (s : σ) :
    (∀ error, textAt s input = .error error → (execute arguments : StateM σ Outcome) s =
      (⟨1, "", "Error: " ++ (CommandError.reading input error).message ++ "\n"⟩, s)) ∧
    (∀ text error, textAt s input = .ok text → Board.load text = .error error →
      (execute arguments : StateM σ Outcome) s =
        (⟨1, "", "Error: " ++ (CommandError.loading error).message ++ "\n"⟩, s)) ∧
    ∀ text board, textAt s input = .ok text → Board.load text = .ok board →
      AddsFolders s ((makeFolders output : StateM σ _) s).2 ∧
      (∀ error s₁, (makeFolders output : StateM σ _) s = (.error error, s₁) →
        (execute arguments : StateM σ Outcome) s =
          (⟨1, "", "Error: " ++ (CommandError.creating output error).message ++ "\n"⟩, s₁)) ∧
      ∀ s₁, (makeFolders output : StateM σ _) s = (.ok (), s₁) →
        ∃ outcome s', (execute arguments : StateM σ Outcome) s = (outcome, s') ∧
          WroteUntilRefused output (scriptFiles board.scripts) s₁ s' outcome ∧
          (outcome.exitCode = 0 → ∃ first second third : String,
            (EndsOnce first ∧ EndsOnce second ∧ EndsOnce third) ∧
            Holds s' (inFolder output "thread_1.txt") first.toUTF8 ∧
            Holds s' (inFolder output "thread_2.txt") second.toUTF8 ∧
            Holds s' (inFolder output "thread_3.txt") third.toUTF8 ∧
            Holds s' (inFolder output "script.txt")
              (first.toUTF8 ++ second.toUTF8 ++ third.toUTF8)) := by
  refine ⟨fun error htext => ?_, fun text error htext hload => ?_, fun text board htext hload =>
    ⟨makeFolders_adds output s, fun error s₁ hmade => ?_, fun s₁ hmade => ?_⟩⟩
  · rw [execute_of_parse h, decode_of_unreadable htext]
  · rw [execute_of_parse h, decode_of_unloadable htext hload]
  · rw [execute_of_parse h, decode_of_no_folder htext hload hmade]
  · obtain ⟨outcome, s', hrun, hleft⟩ := exists_wroteUntilRefused h htext hload hmade
    refine ⟨outcome, s', hrun, hleft, fun hexit => ?_⟩
    have hwrote := hleft.wrote
    rw [hleft.exitCode_iff.mp hexit] at hwrote
    exact exists_holds_scripts hwrote

/-- On one disk, a board is read from one of the files that are written, and its second thread has no
tiles; in another folder the script of this thread is a folder, so two scripts are written; and without
an input nothing is made. -/
theorem decode_writes_until_refused_on_disk :
    let text := "\x7b\"rows\":1,\"cols\":2,\"cells\":[[\x7b\"kind\":\"play\",\"param\":0\x7d," ++
      "\x7b\"kind\":\"thread3\",\"param\":0\x7d]]\x7d"
    let disk : Disk := ⟨[(["w"], .folder), (["w", "d"], .folder), (["w", "e"], .folder),
      (["w", "d", "thread_2.txt"], .file text.toUTF8), (["w", "e", "thread_2.txt"], .folder)], ["w"]⟩
    (∃ disk', (execute ["decode", "d/thread_2.txt", "d"] : StateM Disk Outcome) disk =
        (⟨0, "", ""⟩, disk') ∧
      Holds disk' "d/thread_1.txt" "play 1\n".toUTF8 ∧ Holds disk' "d/thread_2.txt" "".toUTF8 ∧
      Holds disk' "d/thread_3.txt" "thread 3\n".toUTF8 ∧
      ∃ first second third : String, (EndsOnce first ∧ EndsOnce second ∧ EndsOnce third) ∧
        Holds disk' "d/script.txt" (first.toUTF8 ++ second.toUTF8 ++ third.toUTF8)) ∧
    (∃ outcome disk', (execute ["decode", "d/thread_2.txt", "e"] : StateM Disk Outcome) disk =
        (outcome, disk') ∧ outcome.exitCode = 1 ∧
      Holds disk' "e/script.txt" "play 1\nthread 3\n".toUTF8 ∧
      Holds disk' "e/thread_1.txt" "play 1\n".toUTF8 ∧
      disk'.lookup ["w", "e", "thread_3.txt"] = none) ∧
    (execute ["decode", "x", "new"] : StateM Disk Outcome) disk =
      (⟨1, "", "Error: Reading x: No such file or directory (os error 2)\n"⟩, disk) := by
  intro text disk
  let board : Board := ⟨⟨1, 2, by decide, by decide, by decide⟩,
    #[some (.plain .play), some (.plain .thread3)]⟩
  have parse₁ : parse ["decode", "d/thread_2.txt", "d"] =
      some (.run (.decode "d/thread_2.txt" "d")) := by decide +kernel
  have parse₂ : parse ["decode", "d/thread_2.txt", "e"] =
      some (.run (.decode "d/thread_2.txt" "e")) := by decide +kernel
  have parse₃ : parse ["decode", "x", "new"] = some (.run (.decode "x" "new")) := by decide +kernel
  have htext : textAt disk "d/thread_2.txt" = .ok text := by decide +kernel
  have hload : Board.load text = .ok board := by decide +kernel
  have hfiles : scriptFiles board.scripts = [("script.txt", "play 1\nthread 3\n"),
      ("thread_1.txt", "play 1\n"), ("thread_2.txt", ""), ("thread_3.txt", "thread 3\n")] := by
    decide +kernel
  refine ⟨?_, ?_, ?_⟩
  · obtain ⟨-, -, hfound⟩ := (decode_writes_until_refused parse₁ disk).2.2 text board htext hload
    obtain ⟨outcome, disk', hrun, hleft, hwhole⟩ :=
      hfound disk (Disk.makeFolders_of_isFolder (by decide +kernel))
    have hall : openable disk "d" (scriptFiles board.scripts) = scriptFiles board.scripts := by
      decide +kernel
    have holds := hleft.wrote.holds
    rw [hall, hfiles] at holds
    obtain rfl := hleft.outcome_of_all hall
    obtain ⟨first, second, third, hends, -, -, -, hscript⟩ := hwhole rfl
    exact ⟨disk', hrun, holds ("thread_1.txt", "play 1\n") (by simp),
      holds ("thread_2.txt", "") (by simp), holds ("thread_3.txt", "thread 3\n") (by simp),
      first, second, third, hends, hscript⟩
  · obtain ⟨-, -, hfound⟩ := (decode_writes_until_refused parse₂ disk).2.2 text board htext hload
    obtain ⟨outcome, disk', hrun, hleft, -⟩ :=
      hfound disk (Disk.makeFolders_of_isFolder (by decide +kernel))
    have hpart : openable disk "e" (scriptFiles board.scripts) =
        [("script.txt", "play 1\nthread 3\n"), ("thread_1.txt", "play 1\n")] := by decide +kernel
    have holds := hleft.wrote.holds
    rw [hpart] at holds
    refine ⟨outcome, disk', hrun, ?_, holds ("script.txt", "play 1\nthread 3\n") (by simp),
      holds ("thread_1.txt", "play 1\n") (by simp), ?_⟩
    · obtain ⟨error, -, rfl⟩ := hleft.outcome_of_refused ("thread_2.txt", "")
        [("thread_3.txt", "thread 3\n")] (by rw [hpart, hfiles]; rfl)
      rfl
    · have hopens : disk.opens (inFolder "e" "thread_3.txt") = .ok ["w", "e", "thread_3.txt"] := by
        decide +kernel
      exact hleft.entry_eq ("thread_3.txt", "thread 3\n") (by simp [hfiles]) (by simp [hpart]) _ hopens
  · exact (decode_writes_until_refused parse₃ disk).1 .notFound (by decide +kernel)

end CommandLine

end Tileboard
