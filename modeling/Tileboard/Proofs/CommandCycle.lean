import Tileboard.Proofs.CommandRuns
import Tileboard.Proofs.Formatting
import Tileboard.Proofs.FileRoundTrip
import Tileboard.Proofs.Regroup

/-!
Encoding, decoding and encoding again, file by file.

1. **Written scripts** — the line feed at the end of a written script changes nothing
   (`ofScript_endLine`), so the board of a script, written as a script and read again, has the scripts
   that it had (`exists_rewritten`).

2. **Fresh outputs** — a call that writes to fresh outputs succeeds, leaves all other files as they
   are, and its own files hold what it was asked for (`call_encode_of_isFree`,
   `call_decode_of_isFreeFolder`).

3. **The cycle** — after one round the files repeat (`cycle_settles`): the first board that is made of
   a written script has the scripts it was made of, and the second one is made of the same text.
-/

namespace Tileboard

/-! ## Written scripts -/

namespace Board

variable {size : Size} {script : String} {board : Board}

/-- **The line feed at the end of a plain script changes no board.** -/
theorem ofScript_endLine (h : ∀ c ∈ script.toList, Text.isPlain c = true) (size : Size) :
    ofScript (Command.endLine script) size = ofScript script size := by
  refine ofScript_congr ?_ size
  by_cases hempty : script = ""
  · rw [Command.endLine, if_pos hempty, hempty]
  · rw [Command.endLine, if_neg hempty, Script.read, Script.read, Script.commands_append_newline h]

theorem size_of_ofScript (h : ofScript script size = .ok board) : board.size = size := by
  obtain ⟨_, _, hpack⟩ := exists_pack_of_ofScript h
  exact size_of_pack hpack

/-- The text of a board is one of the spellings of its description. -/
theorem spells_fileText (board : Board) : board.file.Spells board.fileText.toList := by
  rw [fileText, BoardFile.print, String.toList_ofList]
  exact BoardFile.spells_printChars board.file

/-- **The board of a script can be written as a script and made again**, and then has the scripts that
it had. -/
theorem exists_rewritten (h : ofScript script size = .ok board) :
    ∃ board', ofScript (Command.endLine board.scripts.flatText) size = .ok board' ∧
      board'.scripts = board.scripts := by
  obtain ⟨-, hne, hvalid⟩ := ofTokens_tokens_of_ofScript h
  have hfit : board.tokens.length ≤ size.area := by
    rw [← size_of_ofScript h]
    exact (wellFormed_of_ofScript h).length_tokens_le
  obtain ⟨board', hboard', -, htokens⟩ := exists_regrouped hvalid hne hfit
  have hplain : ∀ c ∈ board.scripts.flatText.toList, Text.isPlain c = true := by
    rw [flatText_scripts]
    exact Script.isPlain_of_mem_joinLines_text
  refine ⟨board', ?_, ?_⟩
  · rw [ofScript_endLine hplain, hboard']
  · -- grouping tiles that are grouped changes nothing
    rw [scripts, scripts, lanes, htokens, lanes, Lanes.ofTokens_flatten]

end Board

/-! ## Fresh outputs -/

namespace Disk

/-- Whether the folder is there or can be made, with room for the scripts of a board. -/
def isFreeFolder (disk : Disk) (path : String) : Bool :=
  match (makeFolders path : StateM Disk _) disk with
  | (.ok (), made) => Command.scriptNames.all fun name => made.isFree (inFolder path name)
  | (.error _, _) => false

theorem exists_of_isFreeFolder {disk : Disk} {path : String} (h : disk.isFreeFolder path = true) :
    ∃ made place, (makeFolders path : StateM Disk _) disk = (.ok (), made) ∧
      made.HasRoom path place := by
  unfold isFreeFolder at h
  split at h
  · next made hmade =>
    obtain ⟨place, hroom⟩ :=
      exists_folder_of_isFree Command.isName_of_mem_scriptNames (List.all_eq_true.mp h)
    exact ⟨made, place, hmade, hroom⟩
  · nomatch h

end Disk

namespace CommandLine

variable {arguments : List String} {input output : String} {disk disk' : Disk} {board : Board}
  {outcome : Outcome}

/-- **Encoding to a fresh file succeeds** and changes no other file. -/
theorem call_encode_of_isFree {rows cols : Nat} {size : Size} {script : String}
    (h : parse arguments = some (.run (.encode input output rows cols)))
    (hsize : Size.make rows cols = .ok size) (hread : disk.read input = .ok script.toUTF8)
    (hscript : Board.ofScript script size = .ok board) (hfree : disk.isFree output = true)
    (hcall : call arguments disk = (outcome, disk')) :
    outcome.exitCode = 0 ∧ disk.GrowsTo disk' ∧
      disk'.read output = .ok board.fileText.toUTF8 := by
  obtain ⟨written, hwrite, hgrows⟩ := Disk.growsTo_of_isFree hfree board.fileText
  rw [call_encode h hsize (Disk.readText_of_read hread) hscript hwrite] at hcall
  injection hcall with houtcome hdisk
  subst houtcome hdisk
  exact ⟨rfl, hgrows, Disk.read_of_writeText hwrite⟩

/-- **Decoding the file of a board to a fresh folder succeeds** and changes no other file. -/
theorem call_decode_of_isFreeFolder (h : parse arguments = some (.run (.decode input output)))
    (hboard : board.WellFormed) (hread : disk.read input = .ok board.fileText.toUTF8)
    (hfree : disk.isFreeFolder output = true)
    (hcall : call arguments disk = (outcome, disk')) :
    outcome.exitCode = 0 ∧ disk.GrowsTo disk' ∧ ∀ file ∈ Command.scriptFiles board.scripts,
      disk'.read (inFolder output file.1) = .ok file.2.toUTF8 := by
  obtain ⟨made, place, hmade, hroom⟩ := Disk.exists_of_isFreeFolder hfree
  have hgrows : disk.GrowsTo made := by
    have hgrows := Disk.grows_makeFolders output disk
    rwa [hmade] at hgrows
  have hload := Board.load_of_spells hboard (Board.spells_fileText board)
  rw [call_decode h (Disk.readText_of_read hread) hload hmade hroom] at hcall
  injection hcall with houtcome hdisk
  subst houtcome hdisk
  exact ⟨rfl, hgrows.trans (hroom.growsTo board.scripts), hroom.read board.scripts⟩

/-! ## The cycle -/

/-- **The files repeat after one round.**  Take any script that a call encodes, on any size: the board
that it makes is decoded to a folder, the script in that folder is encoded on the same size, the new
board is decoded to another folder, and the script in there is encoded on the same size.  Where each
output is fresh when its call begins, all calls succeed, the four files in the two folders are the
same, byte for byte, and so are the last two boards. -/
theorem cycle_settles {a₁ a₂ a₃ a₄ a₅ : List String} {rows cols : Nat}
    {script file₁ folder₁ file₂ folder₂ file₃ : String}
    (encodes₁ : parse a₁ = some (.run (.encode script file₁ rows cols)))
    (decodes₁ : parse a₂ = some (.run (.decode file₁ folder₁)))
    (encodes₂ : parse a₃ =
      some (.run (.encode (inFolder folder₁ "script.txt") file₂ rows cols)))
    (decodes₂ : parse a₄ = some (.run (.decode file₂ folder₂)))
    (encodes₃ : parse a₅ =
      some (.run (.encode (inFolder folder₂ "script.txt") file₃ rows cols)))
    {disk₀ disk₁ disk₂ disk₃ disk₄ disk₅ : Disk}
    {outcome₁ outcome₂ outcome₃ outcome₄ outcome₅ : Outcome}
    (call₁ : call a₁ disk₀ = (outcome₁, disk₁)) (call₂ : call a₂ disk₁ = (outcome₂, disk₂))
    (call₃ : call a₃ disk₂ = (outcome₃, disk₃)) (call₄ : call a₄ disk₃ = (outcome₄, disk₄))
    (call₅ : call a₅ disk₄ = (outcome₅, disk₅))
    (fresh₂ : disk₁.isFreeFolder folder₁ = true) (fresh₃ : disk₂.isFree file₂ = true)
    (fresh₄ : disk₃.isFreeFolder folder₂ = true) (fresh₅ : disk₄.isFree file₃ = true)
    (success : outcome₁.exitCode = 0) :
    (outcome₂.exitCode = 0 ∧ outcome₃.exitCode = 0 ∧ outcome₄.exitCode = 0 ∧
      outcome₅.exitCode = 0) ∧
    (∀ name ∈ Command.scriptNames, ∃ bytes, disk₅.read (inFolder folder₁ name) = .ok bytes ∧
      disk₅.read (inFolder folder₂ name) = .ok bytes) ∧
    ∃ bytes, disk₅.read file₂ = .ok bytes ∧ disk₅.read file₃ = .ok bytes := by
  obtain ⟨size, text, board, hsize, -, hboard, hwrite⟩ :=
    exists_of_call_encode encodes₁ call₁ success
  -- the board that is made of the first written script, and of all further ones
  obtain ⟨board', hboard', hscripts⟩ := Board.exists_rewritten hboard
  have hagain : Board.ofScript (Command.endLine board'.scripts.flatText) size = .ok board' := by
    rw [hscripts, hboard']
  obtain ⟨hexit₂, hgrows₂, hfiles₂⟩ := call_decode_of_isFreeFolder decodes₁
    (Board.wellFormed_of_ofScript hboard) (Disk.read_of_writeText hwrite) fresh₂ call₂
  have hread₂ : disk₂.read (inFolder folder₁ "script.txt") =
      .ok (Command.endLine board.scripts.flatText).toUTF8 :=
    hfiles₂ (_, _) (Command.script_mem_scriptFiles board.scripts)
  obtain ⟨hexit₃, hgrows₃, hfile₃⟩ :=
    call_encode_of_isFree encodes₂ hsize hread₂ hboard' fresh₃ call₃
  obtain ⟨hexit₄, hgrows₄, hfiles₄⟩ := call_decode_of_isFreeFolder decodes₂
    (Board.wellFormed_of_ofScript hboard') hfile₃ fresh₄ call₄
  have hread₄ : disk₄.read (inFolder folder₂ "script.txt") =
      .ok (Command.endLine board'.scripts.flatText).toUTF8 :=
    hfiles₄ (_, _) (Command.script_mem_scriptFiles board'.scripts)
  obtain ⟨hexit₅, hgrows₅, hfile₅⟩ :=
    call_encode_of_isFree encodes₃ hsize hread₄ hagain fresh₅ call₅
  refine ⟨⟨hexit₂, hexit₃, hexit₄, hexit₅⟩, fun name hname => ?_, ?_⟩
  · obtain ⟨file, hfile, rfl⟩ := List.mem_map.mp (Command.map_fst_scriptFiles board.scripts ▸ hname)
    refine ⟨file.2.toUTF8, ?_, ?_⟩
    · exact Disk.read_of_growsTo (hgrows₃.trans (hgrows₄.trans hgrows₅)) (hfiles₂ file hfile)
    · exact Disk.read_of_growsTo hgrows₅ (hfiles₄ file (hscripts ▸ hfile))
  · exact ⟨_, Disk.read_of_growsTo (hgrows₄.trans hgrows₅) hfile₃, hfile₅⟩

/-- Two markers on a board of two rows, the second thread's first: the first board has them in the
other order, and the second and the third are the same. -/
theorem cycle_settles_two_markers :
    ∃ disk₁ disk₂ disk₃ disk₄ disk₅ : Disk,
      (call ["encode", "s.txt", "g1", "--rows", "2", "--cols", "2"]
          ⟨[(["w"], .folder), (["w", "s.txt"], .file "thread 2\nthread 1".toUTF8)], ["w"]⟩ =
          (⟨0, "", ""⟩, disk₁) ∧
        call ["decode", "g1", "d1"] disk₁ = (⟨0, "", ""⟩, disk₂) ∧
        call ["encode", "d1/script.txt", "g2", "--rows=2", "--cols=2"] disk₂ =
          (⟨0, "", ""⟩, disk₃) ∧
        call ["decode", "g2", "d2"] disk₃ = (⟨0, "", ""⟩, disk₄) ∧
        call ["encode", "--cols", "2", "--rows", "2", "d2/script.txt", "g3"] disk₄ =
          (⟨0, "", ""⟩, disk₅)) ∧
      (disk₁.isFreeFolder "d1" = true ∧ disk₂.isFree "g2" = true ∧
        disk₃.isFreeFolder "d2" = true ∧ disk₄.isFree "g3" = true) ∧
      (∀ name ∈ Command.scriptNames, ∃ bytes, disk₅.read (inFolder "d1" name) = .ok bytes ∧
        disk₅.read (inFolder "d2" name) = .ok bytes) ∧
      ∃ bytes, disk₅.read "g2" = .ok bytes ∧ disk₅.read "g3" = .ok bytes := by
  let size : Size := ⟨2, 2, by decide, by decide, by decide⟩
  let board : Board := ⟨size, #[some (.plain .thread2), none, some (.plain .thread1), none]⟩
  let board' : Board := ⟨size, #[some (.plain .thread1), none, some (.plain .thread2), none]⟩
  have hsize : Size.make 2 2 = .ok size := rfl
  have hboard : Board.ofScript "thread 2\nthread 1" size = .ok board := by decide +kernel
  have hboard' : Board.ofScript (Command.endLine board.scripts.flatText) size = .ok board' := by
    decide +kernel
  have hload := Board.load_of_spells (Board.wellFormed_of_ofScript hboard)
    (Board.spells_fileText board)
  have hload' := Board.load_of_spells (Board.wellFormed_of_ofScript hboard')
    (Board.spells_fileText board')
  -- what the calls ask for
  have parse₁ : parse ["encode", "s.txt", "g1", "--rows", "2", "--cols", "2"] =
      some (.run (.encode "s.txt" "g1" 2 2)) := by decide +kernel
  have parse₂ : parse ["decode", "g1", "d1"] = some (.run (.decode "g1" "d1")) := by
    decide +kernel
  have parse₃ : parse ["encode", "d1/script.txt", "g2", "--rows=2", "--cols=2"] =
      some (.run (.encode (inFolder "d1" "script.txt") "g2" 2 2)) := by decide +kernel
  have parse₄ : parse ["decode", "g2", "d2"] = some (.run (.decode "g2" "d2")) := by
    decide +kernel
  have parse₅ : parse ["encode", "--cols", "2", "--rows", "2", "d2/script.txt", "g3"] =
      some (.run (.encode (inFolder "d2" "script.txt") "g3" 2 2)) := by decide +kernel
  -- the disks behind the calls
  let disk₀ : Disk :=
    ⟨[(["w"], .folder), (["w", "s.txt"], .file "thread 2\nthread 1".toUTF8)], ["w"]⟩
  let disk₁ := disk₀.put ["w", "g1"] (.file board.fileText.toUTF8)
  let made₁ := disk₁.put ["w", "d1"] .folder
  let disk₂ := made₁.putFiles ["w", "d1"] (Command.scriptFiles board.scripts)
  let disk₃ := disk₂.put ["w", "g2"] (.file board'.fileText.toUTF8)
  let made₂ := disk₃.put ["w", "d2"] .folder
  let disk₄ := made₂.putFiles ["w", "d2"] (Command.scriptFiles board'.scripts)
  let disk₅ := disk₄.put ["w", "g3"] (.file board'.fileText.toUTF8)
  have write₁ : disk₀.writeText "g1" board.fileText = .ok disk₁ :=
    Disk.writeText_of_leadsTo (by decide +kernel) (by decide +kernel) board.fileText
  have folder₁ : (makeFolders "d1" : StateM Disk _) disk₁ = (.ok (), made₁) :=
    Disk.makeFolders_of_leadsTo (by decide +kernel) (by decide +kernel)
  have room₁ : made₁.HasRoom "d1" ["w", "d1"] := by decide +kernel
  have write₂ : disk₂.writeText "g2" board'.fileText = .ok disk₃ :=
    Disk.writeText_of_leadsTo (by decide +kernel) (by decide +kernel) board'.fileText
  have folder₂ : (makeFolders "d2" : StateM Disk _) disk₃ = (.ok (), made₂) :=
    Disk.makeFolders_of_leadsTo (by decide +kernel) (by decide +kernel)
  have room₂ : made₂.HasRoom "d2" ["w", "d2"] := by decide +kernel
  have write₃ : disk₄.writeText "g3" board'.fileText = .ok disk₅ :=
    Disk.writeText_of_leadsTo (by decide +kernel) (by decide +kernel) board'.fileText
  have start : disk₀.read "s.txt" = .ok "thread 2\nthread 1".toUTF8 :=
    Disk.read_eq_ok_iff.mpr ⟨["w", "s.txt"], by decide +kernel, rfl⟩
  have script₁ := room₁.read board.scripts (_, _) (Command.script_mem_scriptFiles board.scripts)
  have script₂ := room₂.read board'.scripts (_, _) (Command.script_mem_scriptFiles board'.scripts)
  have call₁ := call_encode parse₁ hsize (Disk.readText_of_read start) hboard write₁
  have call₂ := call_decode parse₂ (Disk.readText_of_read (Disk.read_of_writeText write₁)) hload
    folder₁ room₁
  have call₃ := call_encode parse₃ hsize (Disk.readText_of_read script₁) hboard' write₂
  have call₄ := call_decode parse₄ (Disk.readText_of_read (Disk.read_of_writeText write₂)) hload'
    folder₂ room₂
  have call₅ := call_encode parse₅ hsize (Disk.readText_of_read script₂) hboard' write₃
  have fresh₂ : disk₁.isFreeFolder "d1" = true := by decide +kernel
  have fresh₃ : disk₂.isFree "g2" = true := by decide +kernel
  have fresh₄ : disk₃.isFreeFolder "d2" = true := by decide +kernel
  have fresh₅ : disk₄.isFree "g3" = true := by decide +kernel
  obtain ⟨-, hscripts, hboards⟩ := cycle_settles parse₁ parse₂ parse₃ parse₄ parse₅
    call₁ call₂ call₃ call₄ call₅ fresh₂ fresh₃ fresh₄ fresh₅ rfl
  exact ⟨disk₁, disk₂, disk₃, disk₄, disk₅, ⟨call₁, call₂, call₃, call₄, call₅⟩,
    ⟨fresh₂, fresh₃, fresh₄, fresh₅⟩, hscripts, hboards⟩

end CommandLine

end Tileboard
