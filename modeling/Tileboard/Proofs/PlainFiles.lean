import Tileboard.Proofs.CommandParts
import Tileboard.Proofs.WholeWrites
import Mathlib.Data.List.Nodup

/-!
Files that are written one after the other where no path leads to the file of another.

`PlainFiles` adds to `WholeWrites` what it takes for several writes to be told apart: a new folder is
all that making folders changes, different names in a folder are different files, and writing a file
changes neither which paths can be opened nor where they lead.

1. **Folders** — making a folder and those around it adds folders where there was nothing, and changes
   nothing else (`makeFolders_adds`).

2. **Files** — one write gives its file the whole text and leaves the rest (`exists_write`), and a file
   that was written first stays while others are written (`Wrote.cons`).  So of the files of a folder,
   those in front of the first that cannot be opened are written (`exists_writeAll`), and the others are
   as they were (`Wrote.entry_eq_of_not_mem`).

3. **Disks** — the laws hold of every disk.  They do not hold of a file system with links.
-/

namespace Tileboard

section Locations

variable {σ : Type} [FileAccess (StateM σ)] [WholeWrites σ]

open WholeWrites

/-- There are new folders where there was nothing, and all else is as it was. -/
def AddsFolders (s s' : σ) : Prop :=
  ∀ location, entry s' location = entry s location ∨
    entry s location = none ∧ entry s' location = some .folder

/-- The path leads to a file with the bytes. -/
def Holds (s : σ) (path : String) (bytes : ByteArray) : Prop :=
  ∃ location, opens s path = .ok location ∧ entry s location = some (.file bytes)

end Locations

/-- A file system without links: a path is opened where it was opened before, whatever has been
written, and never where the path to another name in the same folder is opened. -/
class PlainFiles (σ : Type) [FileAccess (StateM σ)] extends WholeWrites σ where
  makeFolder_adds : ∀ (path : String) (s : σ),
    AddsFolders s ((FileAccess.makeFolder path : StateM σ _) s).2
  isFolder_snd : ∀ (path : String) (s : σ), ((FileAccess.isFolder path : StateM σ _) s).2 = s
  opens_ne : ∀ {folder name name' : String} {s : σ} {location location' : Location},
    Disk.IsName name → Disk.IsName name' → name ≠ name' →
    opens s (inFolder folder name) = .ok location →
    opens s (inFolder folder name') = .ok location' → location ≠ location'
  opens_of_written : ∀ {path : String} {s : σ} {location : Location},
    opens s path = .ok location → ∀ (text other : String) (location' : Location),
      opens ((FileAccess.writeText path text : StateM σ _) s).2 other = .ok location' ↔
        opens s other = .ok location'

/-! ## Folders -/

section Folders

variable {σ : Type} [FileAccess (StateM σ)] [PlainFiles σ] {s s' s'' : σ}

theorem AddsFolders.refl (s : σ) : AddsFolders s s :=
  fun _ => .inl rfl

theorem AddsFolders.trans (h : AddsFolders s s') (h' : AddsFolders s' s'') : AddsFolders s s'' := by
  intro location
  rcases h' location with heq | ⟨hnone, hfolder⟩
  · rw [heq]
    exact h location
  · rcases h location with heq | ⟨-, hmade⟩
    · exact .inr ⟨heq ▸ hnone, hfolder⟩
    · -- a folder that has been made is there
      rw [hmade] at hnone
      nomatch hnone

/-- **Making a folder and those around it** adds folders, and changes nothing else. -/
theorem makeFolders_adds (path : String) (s : σ) :
    AddsFolders s ((makeFolders path : StateM σ _) s).2 := by
  have hask (path : String) : Keeps AddsFolders (FileAccess.isFolder path : StateM σ _) := by
    intro s
    rw [PlainFiles.isFolder_snd]
    exact .refl s
  exact keeps_makeFolders AddsFolders.refl (fun _ _ _ => AddsFolders.trans)
    PlainFiles.makeFolder_adds hask path s

end Folders

/-! ## Files -/

section Files

variable {σ : Type} [FileAccess (StateM σ)] [PlainFiles σ] {s s' s'' : σ} {folder : String}

open WholeWrites PlainFiles

/-- What writing files into a folder has done: they hold their texts, all other locations are as they
were, and the paths lead where they led. -/
structure Wrote (folder : String) (files : List (String × String)) (s s' : σ) : Prop where
  holds : ∀ file ∈ files, Holds s' (inFolder folder file.1) file.2.toUTF8
  frame : ∀ location, (∀ file ∈ files, opens s (inFolder folder file.1) ≠ .ok location) →
    entry s' location = entry s location
  opens_iff : ∀ path location, opens s' path = .ok location ↔ opens s path = .ok location

theorem Wrote.nothing (folder : String) (s : σ) : Wrote folder [] s s :=
  ⟨fun _ h => (nomatch h), fun _ _ => rfl, fun _ _ => Iff.rfl⟩

/-- **A file that can be opened is written.** -/
theorem exists_write {file : String × String} {location : Location σ}
    (hopens : opens s (inFolder folder file.1) = .ok location) :
    ∃ s', (FileAccess.writeText (inFolder folder file.1) file.2 : StateM σ _) s = (.ok (), s') ∧
      Wrote folder [file] s s' := by
  obtain ⟨s', hwrite, hentry, hothers, -⟩ := writeText_of_opened hopens file.2
  have hiff := opens_of_written hopens file.2
  rw [hwrite] at hiff
  refine ⟨s', hwrite, ?_, fun other hother => ?_, hiff⟩
  · intro written hwritten
    rw [List.mem_singleton.mp hwritten]
    exact ⟨location, (hiff ..).mpr hopens, hentry⟩
  · refine hothers other ?_
    rintro rfl
    exact hother file (List.mem_singleton_self file) hopens

/-- **What is opened at another name is as it was.** -/
theorem Wrote.entry_eq {files : List (String × String)} {name : String} {location : Location σ}
    (h : Wrote folder files s s') (hname : Disk.IsName name)
    (hnames : ∀ file ∈ files, Disk.IsName file.1 ∧ file.1 ≠ name)
    (hopens : opens s (inFolder folder name) = .ok location) : entry s' location = entry s location := by
  refine h.frame location fun file hfile hother => ?_
  obtain ⟨hisName, hne⟩ := hnames file hfile
  exact opens_ne hisName hname hne hother hopens rfl

/-- A file that is written first stays while the others are written. -/
theorem Wrote.cons {file : String × String} {files : List (String × String)}
    (hnames : ∀ other ∈ file :: files, Disk.IsName other.1) (hnew : file.1 ∉ files.map (·.1))
    (hfirst : Wrote folder [file] s s') (hrest : Wrote folder files s' s'') :
    Wrote folder (file :: files) s s'' where
  holds other hother := by
    rcases List.mem_cons.mp hother with rfl | hother
    · obtain ⟨location, hopens, hentry⟩ := hfirst.holds other (List.mem_singleton_self other)
      have hothers : ∀ later ∈ files, Disk.IsName later.1 ∧ later.1 ≠ other.1 := fun later hlater =>
        ⟨hnames later (List.mem_cons_of_mem other hlater),
          fun heq => hnew (heq ▸ List.mem_map_of_mem hlater)⟩
      refine ⟨location, (hrest.opens_iff ..).mpr hopens, ?_⟩
      rw [hrest.entry_eq (hnames other (List.mem_cons_self ..)) hothers hopens, hentry]
    · exact hrest.holds other hother
  frame location hlocation := by
    have hfiles : ∀ other ∈ files, opens s' (inFolder folder other.1) ≠ .ok location :=
      fun other hother hopens =>
        hlocation other (List.mem_cons_of_mem file hother) ((hfirst.opens_iff ..).mp hopens)
    rw [hrest.frame location hfiles]
    refine hfirst.frame location fun other hother => ?_
    rw [List.mem_singleton.mp hother]
    exact hlocation file (List.mem_cons_self ..)
  opens_iff path location := (hrest.opens_iff path location).trans (hfirst.opens_iff path location)

/-! ### Several files -/

/-- The files of a folder in front of the first that cannot be opened. -/
def openable (s : σ) (folder : String) (files : List (String × String)) : List (String × String) :=
  files.takeWhile fun file => (opens s (inFolder folder file.1)).isOk

theorem isOk_iff {ε α : Type} {result : Except ε α} : result.isOk = true ↔ ∃ a, result = .ok a := by
  cases result with
  | error error => exact ⟨fun h => (nomatch h), fun ⟨_, h⟩ => (nomatch h)⟩
  | ok a => exact ⟨fun _ => ⟨a, rfl⟩, fun _ => rfl⟩

/-- The same files can be opened when files have been written. -/
theorem Wrote.openable_eq {written : List (String × String)} (h : Wrote folder written s s')
    (files : List (String × String)) : openable s' folder files = openable s folder files := by
  refine congrArg (files.takeWhile ·) (funext fun file => Bool.eq_iff_iff.mpr ?_)
  simp only [isOk_iff, h.opens_iff]

/-- **Files are written up to the first that cannot be opened**, which is why the writing fails.
Induction on the files; what one write leaves is where the next one begins. -/
theorem exists_writeAll (folder : String) {files : List (String × String)}
    (hnames : ∀ file ∈ files, Disk.IsName file.1) (hnodup : (files.map (·.1)).Nodup) :
    ∀ s : σ, ∃ result s',
      (Command.writeAll folder files : ExceptT CommandError (StateM σ) Unit).run s = (result, s') ∧
      Wrote folder (openable s folder files) s s' ∧
      (result = .ok () ∧ openable s folder files = files ∨
        ∃ file rest error, files = openable s folder files ++ file :: rest ∧
          opens s' (inFolder folder file.1) = .error error ∧
          result = .error (.writingScripts error)) := by
  induction files with
  | nil => exact fun s => ⟨_, s, rfl, .nothing folder s, .inl ⟨rfl, rfl⟩⟩
  | cons file files ih =>
    intro s
    obtain ⟨hnew, hnodup⟩ := List.nodup_cons.mp hnodup
    rw [Command.writeAll, Command.bind_apply, Command.request_apply]
    cases hopens : opens s (inFolder folder file.1) with
    | error error =>
      have hnone : openable s folder (file :: files) = [] :=
        List.takeWhile_cons_of_neg (by simp [hopens, Except.isOk, Except.toBool])
      rw [writeText_of_refused hopens, hnone]
      exact ⟨_, s, rfl, .nothing folder s, .inr ⟨file, files, error, rfl, hopens, rfl⟩⟩
    | ok location =>
      obtain ⟨s₁, hwrite, hfirst⟩ := exists_write hopens
      have hsome : openable s folder (file :: files) = file :: openable s₁ folder files := by
        rw [hfirst.openable_eq]
        exact List.takeWhile_cons_of_pos (by simp [hopens, Except.isOk, Except.toBool])
      have hsublist : (openable s₁ folder files).Sublist files := List.takeWhile_sublist _
      obtain ⟨result, s', hrun, hwrote, hresult⟩ :=
        ih (fun other hother => hnames other (List.mem_cons_of_mem file hother)) hnodup s₁
      rw [hwrite, hsome]
      refine ⟨result, s', hrun, hfirst.cons (fun other hother => ?_) (fun hmem => ?_) hwrote, ?_⟩
      · exact hnames other ((hsublist.cons_cons file).subset hother)
      · exact hnew ((hsublist.map (·.1)).subset hmem)
      · rcases hresult with ⟨hok, hall⟩ | ⟨other, rest, error, hfiles, hother, herror⟩
        · exact .inl ⟨hok, by rw [hall]⟩
        · exact .inr ⟨other, rest, error, by rw [List.cons_append, ← hfiles], hother, herror⟩

/-- **A file that has not been written is as it was**, also if it could have been opened. -/
theorem Wrote.entry_eq_of_not_mem {files : List (String × String)} {file : String × String}
    {location : Location σ} (h : Wrote folder (openable s folder files) s s')
    (hnames : ∀ file ∈ files, Disk.IsName file.1) (hnodup : (files.map (·.1)).Nodup)
    (hfile : file ∈ files) (hnot : file ∉ openable s folder files)
    (hopens : opens s (inFolder folder file.1) = .ok location) : entry s' location = entry s location := by
  refine h.entry_eq (hnames file hfile) (fun other hother => ?_) hopens
  have hmem : other ∈ files := (List.takeWhile_sublist _).subset hother
  refine ⟨hnames other hmem, fun heq => hnot ?_⟩
  rwa [← List.inj_on_of_nodup_map hnodup hmem hfile heq]

end Files

/-! ## Disks -/

namespace Disk

variable {disk disk' : Disk}

/-- Paths are opened as before while the folders are the same. -/
theorem opens_of_keepsFolders (h : disk.KeepsFolders disk') (h' : disk'.KeepsFolders disk)
    {path : String} {place : Place} : disk'.opens path = .ok place ↔ disk.opens path = .ok place := by
  rw [opens_eq_ok_iff, opens_eq_ok_iff]
  constructor
  · rintro ⟨hleads, hfolder⟩
    exact ⟨leadsTo_of_keepsFolders h' hleads, fun hthere => hfolder (h.folder place hthere)⟩
  · rintro ⟨hleads, hfolder⟩
    exact ⟨leadsTo_of_keepsFolders h hleads, fun hthere => hfolder (h'.folder place hthere)⟩

/-- A file that is put somewhere makes no folder. -/
theorem keepsFolders_of_put_file (disk : Disk) {place : Place} (hne : place ≠ [])
    (bytes : ByteArray) : (disk.put place (.file bytes)).KeepsFolders disk where
  working_eq := rfl
  folder other hother := by
    by_cases heq : other = place
    · rw [heq, lookup_put_self disk hne] at hother
      nomatch hother
    · rwa [lookup_put_of_ne disk heq] at hother

theorem makeFolder_adds (disk : Disk) (path : String) :
    AddsFolders disk ((FileAccess.makeFolder path : StateM Disk _) disk).2 := by
  rcases makeFolder_snd path disk with hsame | ⟨place, hlookup, hput⟩
  · rw [hsame]
    exact fun _ => .inl rfl
  · have hne : place ≠ [] := by
      rintro rfl
      nomatch hlookup
    rw [hput]
    intro other
    by_cases heq : other = place
    · rw [heq]
      exact .inr ⟨hlookup, lookup_put_self disk hne _⟩
    · exact .inl (lookup_put_of_ne disk heq _)

/-- **A disk has no links.** -/
instance : PlainFiles Disk where
  makeFolder_adds path disk := makeFolder_adds disk path
  isFolder_snd _ _ := rfl
  opens_ne {folder name name' disk place place'} hname hname' hne hopens hopens' heq := by
    have hlast := (opens_eq_ok_iff.mp hopens).1.getLast?_eq hname
    have hlast' := (opens_eq_ok_iff.mp hopens').1.getLast?_eq hname'
    rw [heq, hlast', Option.some.injEq] at hlast
    exact hne hlast.symm
  opens_of_written {path disk place} hopens text other place' := by
    obtain ⟨hleads, hfolder⟩ := opens_eq_ok_iff.mp hopens
    rw [writeText_of_opens hopens]
    exact opens_of_keepsFolders (keepsFolders_put hfolder _)
      (keepsFolders_of_put_file disk hleads.ne_nil _)

end Disk

end Tileboard
