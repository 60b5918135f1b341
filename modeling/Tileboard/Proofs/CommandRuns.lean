import Tileboard.Proofs.CommandParts
import Tileboard.Proofs.DiskFiles

/-!
The commands as functions on a disk.

1. **Commands** — `on_encode`, `on_decode` and `on_labels` say what a command gives in every case,
   failures included, in terms of the requests to the disk and of the boards alone.

2. **Files of a folder** — texts are written into a folder one after the other (`on_writeAll`).  In a
   folder that has room for the scripts of a board (`HasRoom`), they are read as they were written.

3. **Calls** — a call whose arguments ask for a command does what the command does (`call_of_parse`).
   So it is known when a call encodes (`call_encode`, `exists_of_call_encode`) or decodes
   (`call_decode`), and what the disk is then.
-/

namespace Tileboard

namespace Command

variable {α : Type}

/-! ## Commands -/

/-- What a part of a command gives on a disk, and the disk behind it. -/
def on (part : ExceptT CommandError (StateM Disk) α) (disk : Disk) : Except CommandError α × Disk :=
  part.run disk

theorem readText_apply (path : String) (disk : Disk) :
    (FileAccess.readText path : StateM Disk _) disk = (disk.readText path, disk) :=
  rfl

theorem writeText_apply (path text : String) (disk : Disk) :
    (FileAccess.writeText path text : StateM Disk _) disk =
      match disk.writeText path text with
      | .ok disk => (.ok (), disk)
      | .error error => (.error error, disk) := by
  show update (fun disk => disk.writeText path text) disk = _
  unfold update
  dsimp only
  cases disk.writeText path text with
  | ok disk => rfl
  | error error => rfl

/-- **What `encode` gives**: the first thing that fails, with the disk as it was, or the disk with the
text of the board in the output. -/
theorem on_encode (input output : String) (rows cols : Nat) (disk : Disk) :
    on (run (.encode input output rows cols)) disk =
      match Size.make rows cols with
      | .error error => (.error (.size error), disk)
      | .ok size =>
        match disk.readText input with
        | .error error => (.error (.reading input error), disk)
        | .ok script =>
          match Board.ofScript script size with
          | .error error => (.error (.encoding input error), disk)
          | .ok board =>
            match disk.writeText output board.fileText with
            | .error error => (.error (.writing output error), disk)
            | .ok disk => (.ok "", disk) := by
  rw [on, encode_apply, readText_apply]
  rcases Size.make rows cols with error | size
  · rfl
  rcases disk.readText input with error | script
  · rfl
  simp only
  rcases Board.ofScript script size with error | board
  · rfl
  simp only
  rw [writeText_apply]
  rcases disk.writeText output board.fileText with error | disk
  · rfl
  · rfl

/-- What loading a board from a file gives; the disk stays as it was. -/
theorem on_loadBoard (path : String) (disk : Disk) :
    on (loadBoard path) disk =
      match disk.readText path with
      | .error error => (.error (.reading path error), disk)
      | .ok text =>
        match Board.load text with
        | .error error => (.error (.loading error), disk)
        | .ok board => (.ok board, disk) := by
  rw [on, loadBoard_apply, readText_apply]
  rcases disk.readText path with error | text
  · rfl
  simp only
  rcases Board.load text with error | board
  · rfl
  · rfl

/-- **What `decode` gives**: a failure to load the board with the disk as it was, a failure to make the
folder, or what writing the files into it gives. -/
theorem on_decode (input output : String) (disk : Disk) :
    on (run (.decode input output)) disk =
      match on (loadBoard input) disk with
      | (.error error, disk) => (.error error, disk)
      | (.ok board, disk) =>
        match (makeFolders output : StateM Disk _) disk with
        | (.error error, disk) => (.error (.creating output error), disk)
        | (.ok (), disk) =>
          match on (writeAll output (scriptFiles board.scripts)) disk with
          | (.error error, disk) => (.error error, disk)
          | (.ok (), disk) => (.ok "", disk) := by
  unfold on
  rw [decode_apply]
  rcases (loadBoard input : ExceptT CommandError (StateM Disk) Board).run disk with
    ⟨error | board, disk⟩
  · rfl
  simp only
  rcases (makeFolders output : StateM Disk _) disk with ⟨error | _, disk⟩
  · rfl
  simp only
  rcases (writeAll output (scriptFiles board.scripts) : ExceptT CommandError (StateM Disk) Unit).run
    disk with ⟨error | _, disk⟩
  · rfl
  · rfl

/-- **What `labels` gives**: the table of the board in the file; the disk stays as it was. -/
theorem on_labels (input : String) (disk : Disk) :
    on (run (.labels input)) disk =
      match on (loadBoard input) disk with
      | (.error error, disk) => (.error error, disk)
      | (.ok board, disk) => (.ok board.labelTable, disk) := by
  unfold on
  rw [labels_apply]
  rcases (loadBoard input : ExceptT CommandError (StateM Disk) Board).run disk with
    ⟨error | board, disk⟩
  · rfl
  · rfl

/-! ## Files of a folder -/

/-- **Files are written into a folder** where each path leads to its name and to no folder. -/
theorem on_writeAll {folder : String} {place : Place} {files : List (String × String)} :
    ∀ {disk : Disk}, (∀ file ∈ files, disk.LeadsTo (inFolder folder file.1) (place ++ [file.1]) ∧
        disk.lookup (place ++ [file.1]) ≠ some .folder) →
      on (writeAll folder files) disk = (.ok (), disk.putFiles place files) := by
  induction files with
  | nil => exact fun _ => rfl
  | cons file files ih =>
    intro disk h
    obtain ⟨name, text⟩ := file
    obtain ⟨hleads, hfolder⟩ := h _ (List.mem_cons_self ..)
    have hwrite : disk.writeText (inFolder folder name) text =
        .ok (disk.put (place ++ [name]) (.file text.toUTF8)) :=
      Disk.writeText_eq_ok_iff.mpr ⟨_, hleads, hfolder, rfl⟩
    have hkeeps := Disk.keepsFolders_put hfolder (.file text.toUTF8)
    rw [on, writeAll, bind_apply, request_apply, writeText_apply, hwrite]
    refine ih fun other hother => ?_
    obtain ⟨hleads', hfolder'⟩ := h _ (List.mem_cons_of_mem _ hother)
    refine ⟨Disk.leadsTo_of_keepsFolders hkeeps hleads', ?_⟩
    -- what has been written is a file, and the rest is as it was
    by_cases hplace : place ++ [other.1] = place ++ [name]
    · rw [hplace, Disk.lookup_put_self disk hleads.ne_nil]
      simp
    · rwa [Disk.lookup_put_of_ne disk hplace]

/-! ### The scripts of a board -/

/-- The names of the scripts that are written for a board. -/
def scriptNames : List String :=
  ["script.txt", "thread_1.txt", "thread_2.txt", "thread_3.txt"]

variable {scripts : Lanes String} {file : String × String}

theorem map_fst_scriptFiles (scripts : Lanes String) :
    (scriptFiles scripts).map (·.1) = scriptNames :=
  rfl

theorem nodup_scriptFiles (scripts : Lanes String) : ((scriptFiles scripts).map (·.1)).Nodup := by
  rw [map_fst_scriptFiles]
  decide

theorem fst_mem_scriptNames (h : file ∈ scriptFiles scripts) : file.1 ∈ scriptNames :=
  List.mem_map_of_mem h

theorem script_mem_scriptFiles (scripts : Lanes String) :
    ("script.txt", endLine scripts.flatText) ∈ scriptFiles scripts :=
  List.mem_cons_self ..

theorem isName_of_mem_scriptNames : ∀ name ∈ scriptNames, Disk.IsName name := by
  have hall : ∀ name ∈ scriptNames, name ≠ "" ∧ '/' ∉ name.toList := by decide +kernel
  exact hall

end Command

namespace Disk

open Command

variable {disk : Disk} {path : String} {place : Place}

/-- The path is that of the folder at the place, and the scripts of a board can be made there, where
none of them is. -/
def HasRoom (disk : Disk) (path : String) (place : Place) : Prop :=
  ∀ name ∈ scriptNames, disk.LeadsTo (inFolder path name) (place ++ [name]) ∧
    disk.lookup (place ++ [name]) = none

instance : Decidable (disk.HasRoom path place) :=
  inferInstanceAs (Decidable (∀ name ∈ scriptNames, _ ∧ _))

theorem HasRoom.growsTo (h : disk.HasRoom path place) (scripts : Lanes String) :
    disk.GrowsTo (disk.putFiles place (scriptFiles scripts)) :=
  growsTo_putFiles fun _ hfile => (h _ (fst_mem_scriptNames hfile)).2

/-- **The scripts are read as they were put into the folder.** -/
theorem HasRoom.read (h : disk.HasRoom path place) (scripts : Lanes String) :
    ∀ file ∈ scriptFiles scripts, (disk.putFiles place (scriptFiles scripts)).read
      (inFolder path file.1) = .ok file.2.toUTF8 := by
  intro file hfile
  have hleads := leadsTo_of_keepsFolders (h.growsTo scripts).keepsFolders
    (h _ (fst_mem_scriptNames hfile)).1
  exact read_eq_ok_iff.mpr ⟨_, hleads, lookup_putFiles_of_mem (nodup_scriptFiles scripts) hfile⟩

end Disk

/-! ## Calls -/

namespace CommandLine

/-- What a call of the program leaves behind, and the disk behind it. -/
def call (arguments : List String) (disk : Disk) : Outcome × Disk :=
  (execute arguments : StateM Disk Outcome) disk

/-- A call that asks for a command does what the command does. -/
theorem call_of_parse {arguments : List String} {command : Command}
    (h : parse arguments = some (.run command)) (disk : Disk) :
    call arguments disk =
      match Command.on command.run disk with
      | (.ok output, disk) => (⟨0, output, ""⟩, disk)
      | (.error error, disk) => (⟨1, "", "Error: " ++ error.message ++ "\n"⟩, disk) := by
  rw [call, execute_of_parse h, Command.on]
  rcases (command.run : ExceptT CommandError (StateM Disk) String).run disk with
    ⟨error | output, disk⟩
  · rfl
  · rfl

/-- A call that asks for a command and exits with 0 has carried it out. -/
theorem exists_on_of_call {arguments : List String} {command : Command} {outcome : Outcome}
    {disk disk' : Disk} (h : parse arguments = some (.run command))
    (hcall : call arguments disk = (outcome, disk')) (hexit : outcome.exitCode = 0) :
    ∃ output, Command.on command.run disk = (.ok output, disk') := by
  rw [call_of_parse h] at hcall
  split at hcall
  · next output written hrun =>
    injection hcall with _ hdisk
    subst hdisk
    exact ⟨output, hrun⟩
  · -- a failure exits with 1
    injection hcall with houtcome
    subst houtcome
    nomatch hexit

/-! ### Encoding and decoding -/

variable {arguments : List String} {input output : String} {rows cols : Nat} {disk disk' : Disk}

/-- **A call encodes** if the size is accepted, the input is the script of a board of that size, and
the text of the board can be written. -/
theorem call_encode {size : Size} {script : String} {board : Board}
    (h : parse arguments = some (.run (.encode input output rows cols)))
    (hsize : Size.make rows cols = .ok size) (hread : disk.readText input = .ok script)
    (hscript : Board.ofScript script size = .ok board)
    (hwrite : disk.writeText output board.fileText = .ok disk') :
    call arguments disk = (⟨0, "", ""⟩, disk') := by
  rw [call_of_parse h, Command.on_encode]
  simp only [hsize, hread, hscript, hwrite]

/-- A call that is asked to encode and exits with 0 has done so. -/
theorem exists_of_call_encode {outcome : Outcome}
    (h : parse arguments = some (.run (.encode input output rows cols)))
    (hcall : call arguments disk = (outcome, disk')) (hexit : outcome.exitCode = 0) :
    ∃ size script board, Size.make rows cols = .ok size ∧ disk.readText input = .ok script ∧
      Board.ofScript script size = .ok board ∧
      disk.writeText output board.fileText = .ok disk' := by
  obtain ⟨printed, hrun⟩ := exists_on_of_call h hcall hexit
  rw [Command.on_encode] at hrun
  split at hrun
  · nomatch hrun
  · next size hsize =>
    split at hrun
    · nomatch hrun
    · next script hread =>
      split at hrun
      · nomatch hrun
      · next board hscript =>
        split at hrun
        · nomatch hrun
        · next written hwrite =>
          injection hrun with _ hdisk
          subst hdisk
          exact ⟨size, script, board, hsize, hread, hscript, hwrite⟩

/-- **A call decodes** if the input is the file of a board and the folder can be made, with room for
the scripts. -/
theorem call_decode {text : String} {board : Board} {place : Place}
    (h : parse arguments = some (.run (.decode input output)))
    (hread : disk.readText input = .ok text) (hload : Board.load text = .ok board)
    (hfolders : (makeFolders output : StateM Disk _) disk = (.ok (), disk'))
    (hroom : disk'.HasRoom output place) :
    call arguments disk =
      (⟨0, "", ""⟩, disk'.putFiles place (Command.scriptFiles board.scripts)) := by
  have hplace : ∀ file ∈ Command.scriptFiles board.scripts,
      disk'.LeadsTo (inFolder output file.1) (place ++ [file.1]) ∧
        disk'.lookup (place ++ [file.1]) ≠ some .folder := by
    intro file hfile
    obtain ⟨hleads, hlookup⟩ := hroom _ (Command.fst_mem_scriptNames hfile)
    exact ⟨hleads, by simp [hlookup]⟩
  rw [call_of_parse h, Command.on_decode, Command.on_loadBoard]
  simp only [hread, hload, hfolders, Command.on_writeAll hplace]

end CommandLine

end Tileboard
