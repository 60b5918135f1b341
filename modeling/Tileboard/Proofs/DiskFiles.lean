import Tileboard.Disk

/-!
Files that are written and read again, and a disk that grows.

1. **Folders in folders** — making a folder and those around it keeps whatever making one folder keeps,
   on any file system (`keeps_makeFolders`).

2. **Paths** — a path is resolved through folders alone, so it leads to the same place on every disk
   that has these folders (`leadsTo_of_keepsFolders`).  Writing a file keeps the folders, because a
   folder is never overwritten (`keepsFolders_put`).

3. **Requests** — when reading and writing succeed, said once for each (`read_eq_ok_iff`,
   `writeText_eq_ok_iff`).  Whether a text is written is settled before anything is put anywhere
   (`writeText_eq`), and a text that has been written is read back (`read_of_writeText`).

4. **Growing** — a disk grows to another if all that is on it stays (`GrowsTo`), so its files are read
   as before (`read_of_growsTo`).  Making folders and writing to free paths make a disk grow
   (`grows_makeFolders`, `growsTo_of_isFree`).

5. **Files in one folder** — paths to different names in a folder lead to different places
   (`LeadsTo.getLast?_eq`) in one and the same folder (`exists_folder_of_isFree`), and files put there
   hold their own texts and change no other place (`lookup_putFiles_of_mem`, `lookup_putFiles_of_ne`).
-/

namespace Tileboard

/-! ## Folders in folders -/

section Keeps

variable {σ α β : Type} {R : σ → σ → Prop}

/-- A request that leads from every state to one that is related to it. -/
def Keeps (R : σ → σ → Prop) (request : StateM σ α) : Prop :=
  ∀ s, R s (request s).2

theorem keeps_pure (refl : ∀ s, R s s) (a : α) : Keeps R (pure a : StateM σ α) :=
  refl

theorem Keeps.bind (trans : ∀ s s' s'', R s s' → R s' s'' → R s s'') {request : StateM σ α}
    {next : α → StateM σ β} (h : Keeps R request) (hnext : ∀ a, Keeps R (next a)) :
    Keeps R (request >>= next) :=
  fun s => trans _ _ _ (h s) (hnext _ _)

variable [FileAccess (StateM σ)]

/-- Folders in folders keep what single folders keep.  Induction on the folders around, from the
innermost on. -/
theorem keeps_makeNested (refl : ∀ s, R s s) (trans : ∀ s s' s'', R s s' → R s' s'' → R s s'')
    (hmake : ∀ path, Keeps R (FileAccess.makeFolder path : StateM σ _))
    (hask : ∀ path, Keeps R (FileAccess.isFolder path : StateM σ _)) (paths : List String) :
    Keeps R (makeNested paths : StateM σ _) := by
  have hunless (path : String) (error : AccessError) :
      Keeps R (unlessFolder path error : StateM σ _) :=
    (hask path).bind trans fun _ => keeps_pure refl _
  induction paths with
  | nil => exact keeps_pure refl _
  | cons path around ih =>
    refine (hmake path).bind trans fun made => ?_
    split
    · exact keeps_pure refl _
    · refine ih.bind trans fun made => ?_
      split
      · exact keeps_pure refl _
      · refine (hmake path).bind trans fun made => ?_
        split
        · exact keeps_pure refl _
        · exact hunless path _
    · exact hunless path _

/-- **Making a folder and those around it** keeps what making one folder keeps. -/
theorem keeps_makeFolders (refl : ∀ s, R s s) (trans : ∀ s s' s'', R s s' → R s' s'' → R s s'')
    (hmake : ∀ path, Keeps R (FileAccess.makeFolder path : StateM σ _))
    (hask : ∀ path, Keeps R (FileAccess.isFolder path : StateM σ _)) (path : String) :
    Keeps R (makeFolders path : StateM σ _) :=
  keeps_makeNested refl trans hmake hask _

end Keeps

namespace Disk

variable {disk disk' : Disk} {path text : String} {place folder : Place} {name : String}

/-! ## Paths -/

/-- The folders of the disk are folders of the other, and paths begin in the same one. -/
structure KeepsFolders (disk disk' : Disk) : Prop where
  working_eq : disk'.working = disk.working
  folder : ∀ place, disk.lookup place = some .folder → disk'.lookup place = some .folder

theorem find_eq_ok_iff {found : Option Entry} : disk.find folder name = .ok found ↔
    name.utf8ByteSize ≤ nameLimit ∧ disk.lookup (folder ++ [name]) = found := by
  unfold find
  split
  · next h => exact ⟨fun he => (nomatch he), fun he => absurd he.1 (Nat.not_le.mpr h)⟩
  · next h => simp [Nat.not_lt.mp h]

theorem enter_of_keepsFolders (h : disk.KeepsFolders disk') {names : List String} :
    ∀ {folder : Place}, disk.enter folder names = .ok place →
      disk'.enter folder names = .ok place := by
  induction names with
  | nil => exact fun henter => henter
  | cons name names ih =>
    intro folder henter
    unfold enter at henter ⊢
    split at henter
    · next hdot => rw [if_pos hdot]; exact ih henter
    · next hdot =>
      rw [if_neg hdot]
      split at henter
      · next hparent => rw [if_pos hparent]; exact ih henter
      · next hparent =>
        rw [if_neg hparent]
        -- a name that is entered stands for a folder
        split at henter
        · nomatch henter
        · next hfind =>
          obtain ⟨hlength, hlookup⟩ := find_eq_ok_iff.mp hfind
          rw [find_eq_ok_iff.mpr ⟨hlength, h.folder _ hlookup⟩]
          exact ih henter
        · nomatch henter
        · nomatch henter

/-- The names of a path lead to a folder from where the path begins, if it is not too long. -/
theorem enterFrom_eq_ok_iff {names : List String} : disk.enterFrom path names = .ok place ↔
    path.utf8ByteSize ≤ pathLimit ∧
      disk.enter (if isAbsolute path then [] else disk.working) names = .ok place := by
  unfold enterFrom
  split
  · next h => exact ⟨fun he => (nomatch he), fun he => absurd he.1 (Nat.not_le.mpr h)⟩
  · next h => simp [Nat.not_lt.mp h]

theorem locate_eq_name_iff : disk.locate path = .ok (.name folder name) ↔
    disk.enterFrom path (pathNames path).dropLast = .ok folder ∧
      (pathNames path).getLast? = some name ∧ name ≠ "." ∧ name ≠ ".." := by
  unfold locate
  dsimp only
  cases disk.enterFrom path (pathNames path).dropLast with
  | error error => simp
  | ok entered =>
    cases (pathNames path).getLast? with
    | none => simp
    | some last =>
      by_cases hdots : last = "." ∨ last = ".."
      · simp only [if_pos hdots]
        constructor
        · intro h
          nomatch h
        · rintro ⟨-, hlast, hdot, hparent⟩
          obtain rfl := Option.some.inj hlast
          exact (hdots.elim hdot hparent).elim
      · simp only [if_neg hdots, Except.ok.injEq, Target.name.injEq, Option.some.injEq]
        constructor
        · rintro ⟨rfl, rfl⟩
          exact ⟨rfl, rfl, not_or.mp hdots⟩
        · rintro ⟨rfl, rfl, -⟩
          exact ⟨rfl, rfl⟩

/-- The path leads to a place that a file can have: it ends in a name that is not too long. -/
def LeadsTo (disk : Disk) (path : String) (place : Place) : Prop :=
  endsInSlash path = false ∧ ∃ folder name, disk.locate path = .ok (.name folder name) ∧
    name.utf8ByteSize ≤ nameLimit ∧ place = folder ++ [name]

instance : Decidable (disk.LeadsTo path place) :=
  decidable_of_iff (endsInSlash path = false ∧ (match disk.locate path with
    | .ok (.name folder name) => decide (name.utf8ByteSize ≤ nameLimit ∧ place = folder ++ [name])
    | _ => false) = true) <| by
  refine and_congr_right fun _ => ?_
  constructor
  · intro h
    split at h
    · next folder name hlocate => exact ⟨folder, name, hlocate, of_decide_eq_true h⟩
    · nomatch h
  · rintro ⟨folder, name, hlocate, h⟩
    rw [hlocate]
    exact decide_eq_true h

theorem LeadsTo.ne_nil (h : disk.LeadsTo path place) : place ≠ [] := by
  obtain ⟨-, folder, name, -, -, rfl⟩ := h
  simp

/-- **A path leads to the same place as long as the folders stay.** -/
theorem leadsTo_of_keepsFolders (h : disk.KeepsFolders disk') (hleads : disk.LeadsTo path place) :
    disk'.LeadsTo path place := by
  obtain ⟨hslash, folder, name, hlocate, hlength, rfl⟩ := hleads
  obtain ⟨henter, hlast⟩ := locate_eq_name_iff.mp hlocate
  obtain ⟨hpath, henter⟩ := enterFrom_eq_ok_iff.mp henter
  rw [← h.working_eq] at henter
  refine ⟨hslash, folder, name, locate_eq_name_iff.mpr ⟨?_, hlast⟩, hlength, rfl⟩
  exact enterFrom_eq_ok_iff.mpr ⟨hpath, enter_of_keepsFolders h henter⟩

theorem keepsFolders_put (h : disk.lookup place ≠ some .folder) (entry : Entry) :
    disk.KeepsFolders (disk.put place entry) where
  working_eq := rfl
  folder other hother := by
    have hne : other ≠ place := fun he => h (he ▸ hother)
    rw [lookup_put_of_ne disk hne, hother]

/-! ## Requests -/

/-- **Reading succeeds where a path leads to a file.** -/
theorem read_eq_ok_iff {bytes : ByteArray} : disk.read path = .ok bytes ↔
    ∃ place, disk.LeadsTo path place ∧ disk.lookup place = some (.file bytes) := by
  constructor
  · intro h
    unfold read at h
    split at h
    · nomatch h
    · nomatch h
    · next folder name hlocate =>
      split at h
      · nomatch h
      · nomatch h
      · nomatch h
      · next found hfind =>
        split at h
        · nomatch h
        · next hslash =>
          injection h with h
          subst h
          obtain ⟨hlength, hlookup⟩ := find_eq_ok_iff.mp hfind
          exact ⟨_, ⟨by simpa using hslash, folder, name, hlocate, hlength, rfl⟩, hlookup⟩
  · rintro ⟨_, ⟨hslash, folder, name, hlocate, hlength, rfl⟩, hlookup⟩
    simp only [read, hlocate, find_eq_ok_iff.mpr ⟨hlength, hlookup⟩, hslash]
    rfl

/-- The place of the file that is opened at a path to be written. -/
def opens (disk : Disk) (path : String) : Except AccessError Place :=
  match disk.locate path with
  | .error error => .error error
  | .ok .folder => .error .isFolder
  | .ok (.name folder name) =>
    if endsInSlash path then .error .isFolder
    else
      match disk.find folder name with
      | .error error => .error error
      | .ok (some .folder) => .error .isFolder
      | .ok _ => .ok (folder ++ [name])

/-- A path can be written to where it leads to no folder. -/
theorem opens_eq_ok_iff : disk.opens path = .ok place ↔
    disk.LeadsTo path place ∧ disk.lookup place ≠ some .folder := by
  constructor
  · intro h
    unfold opens at h
    split at h
    · nomatch h
    · nomatch h
    · next folder name hlocate =>
      split at h
      · nomatch h
      · next hslash =>
        split at h
        · nomatch h
        · nomatch h
        · next found hfolder hfind =>
          injection h with h
          subst h
          obtain ⟨hlength, hlookup⟩ := find_eq_ok_iff.mp hfind
          refine ⟨⟨by simpa using hslash, folder, name, hlocate, hlength, rfl⟩, ?_⟩
          rw [hlookup]
          simpa using hfolder
  · rintro ⟨⟨hslash, folder, name, hlocate, hlength, rfl⟩, hfolder⟩
    have hfind := find_eq_ok_iff.mpr ⟨hlength, Eq.refl (disk.lookup (folder ++ [name]))⟩
    simp only [opens, hlocate, hslash, hfind]
    rcases hlookup : disk.lookup (folder ++ [name]) with _ | _ | bytes
    · rfl
    · exact absurd hlookup hfolder
    · rfl

/-- **Opening decides**: whether a text can be written does not depend on the text. -/
theorem writeText_eq (disk : Disk) (path text : String) : disk.writeText path text =
    (disk.opens path).map fun place => disk.put place (.file text.toUTF8) := by
  unfold writeText opens
  rcases disk.locate path with error | _ | ⟨folder, name⟩
  · rfl
  · rfl
  simp only
  cases endsInSlash path with
  | true => rfl
  | false =>
    rcases disk.find folder name with error | _ | _ | bytes
    · rfl
    · rfl
    · rfl
    · rfl

/-- **Writing succeeds where a path leads to no folder**, and puts a file there. -/
theorem writeText_eq_ok_iff : disk.writeText path text = .ok disk' ↔
    ∃ place, disk.LeadsTo path place ∧ disk.lookup place ≠ some .folder ∧
      disk' = disk.put place (.file text.toUTF8) := by
  rw [writeText_eq]
  constructor
  · intro h
    rcases hopens : disk.opens path with error | place
    · rw [hopens] at h
      nomatch h
    · rw [hopens] at h
      obtain ⟨hleads, hfolder⟩ := opens_eq_ok_iff.mp hopens
      exact ⟨place, hleads, hfolder, (Except.ok.inj h).symm⟩
  · rintro ⟨place, hleads, hfolder, rfl⟩
    rw [opens_eq_ok_iff.mpr ⟨hleads, hfolder⟩]
    rfl

theorem makeFolder_eq_ok (h : disk.makeFolder path = .ok disk') :
    ∃ place, disk.lookup place = none ∧ disk' = disk.put place .folder := by
  unfold makeFolder at h
  split at h
  · nomatch h
  · nomatch h
  · next folder name hlocate =>
    split at h
    · nomatch h
    · nomatch h
    · next hfind =>
      injection h with h
      exact ⟨folder ++ [name], (find_eq_ok_iff.mp hfind).2, h.symm⟩

theorem readText_of_read (h : disk.read path = .ok text.toUTF8) :
    disk.readText path = .ok text := by
  have hvalid : text.toUTF8.IsValidUTF8 := text.isValidUTF8
  have htext : String.fromUTF8? text.toUTF8 = some text := dif_pos hvalid
  simp only [readText, h, htext]

/-- **A text that has been written is read back.** -/
theorem read_of_writeText (h : disk.writeText path text = .ok disk') :
    disk'.read path = .ok text.toUTF8 := by
  obtain ⟨place, hleads, hfolder, rfl⟩ := writeText_eq_ok_iff.mp h
  have hleads' := leadsTo_of_keepsFolders (keepsFolders_put hfolder (.file text.toUTF8)) hleads
  exact read_eq_ok_iff.mpr ⟨place, hleads', lookup_put_self disk hleads.ne_nil _⟩

/-! ## Growing -/

/-- All that is on the disk is on the other, at the same places. -/
structure GrowsTo (disk disk' : Disk) : Prop where
  working_eq : disk'.working = disk.working
  entry : ∀ place entry, disk.lookup place = some entry → disk'.lookup place = some entry

theorem GrowsTo.refl (disk : Disk) : disk.GrowsTo disk :=
  ⟨rfl, fun _ _ h => h⟩

theorem GrowsTo.trans {disk'' : Disk} (h : disk.GrowsTo disk') (h' : disk'.GrowsTo disk'') :
    disk.GrowsTo disk'' :=
  ⟨h'.working_eq.trans h.working_eq, fun place entry hp => h'.entry _ _ (h.entry place entry hp)⟩

theorem GrowsTo.keepsFolders (h : disk.GrowsTo disk') : disk.KeepsFolders disk' :=
  ⟨h.working_eq, fun place hp => h.entry place _ hp⟩

theorem growsTo_put (h : disk.lookup place = none) (entry : Entry) :
    disk.GrowsTo (disk.put place entry) where
  working_eq := rfl
  entry other found hother := by
    have hne : other ≠ place := by
      rintro rfl
      rw [h] at hother
      nomatch hother
    rw [lookup_put_of_ne disk hne, hother]

/-- **Files stay as they are while the disk grows.** -/
theorem read_of_growsTo (h : disk.GrowsTo disk') {bytes : ByteArray}
    (hread : disk.read path = .ok bytes) : disk'.read path = .ok bytes := by
  obtain ⟨place, hleads, hlookup⟩ := read_eq_ok_iff.mp hread
  exact read_eq_ok_iff.mpr
    ⟨place, leadsTo_of_keepsFolders h.keepsFolders hleads, h.entry _ _ hlookup⟩

/-- Whether there is nothing at the path and a file can be made there. -/
def isFree (disk : Disk) (path : String) : Bool :=
  match disk.locate path with
  | .ok (.name folder name) =>
    match disk.find folder name with
    | .ok none => !endsInSlash path
    | _ => false
  | _ => false

theorem isFree_iff : disk.isFree path = true ↔
    ∃ place, disk.LeadsTo path place ∧ disk.lookup place = none := by
  constructor
  · intro h
    unfold isFree at h
    split at h
    · next folder name hlocate =>
      split at h
      · next hfind =>
        obtain ⟨hlength, hlookup⟩ := find_eq_ok_iff.mp hfind
        exact ⟨_, ⟨by simpa using h, folder, name, hlocate, hlength, rfl⟩, hlookup⟩
      · nomatch h
    · nomatch h
  · rintro ⟨_, ⟨hslash, folder, name, hlocate, hlength, rfl⟩, hlookup⟩
    simp only [isFree, hlocate, find_eq_ok_iff.mpr ⟨hlength, hlookup⟩, hslash]
    rfl

theorem writeText_of_leadsTo (hleads : disk.LeadsTo path place) (hlookup : disk.lookup place = none)
    (text : String) : disk.writeText path text = .ok (disk.put place (.file text.toUTF8)) :=
  writeText_eq_ok_iff.mpr ⟨place, hleads, by simp [hlookup], rfl⟩

/-- **A text can be written to a free path**, and nothing that is there changes. -/
theorem growsTo_of_isFree (h : disk.isFree path = true) (text : String) :
    ∃ disk', disk.writeText path text = .ok disk' ∧ disk.GrowsTo disk' := by
  obtain ⟨place, hleads, hlookup⟩ := isFree_iff.mp h
  exact ⟨_, writeText_of_leadsTo hleads hlookup text, growsTo_put hlookup _⟩

/-! ## Making folders -/

/-- A request after which all is still there that was there before. -/
def Grows {α : Type} (request : StateM Disk α) : Prop :=
  ∀ disk : Disk, disk.GrowsTo (request disk).2

/-- The next request is made on the disk that the first one leaves behind. -/
theorem bind_apply {α β : Type} (request : StateM Disk α) (next : α → StateM Disk β)
    (disk : Disk) : (request >>= next) disk = next (request disk).1 (request disk).2 :=
  rfl

theorem makeFolder_apply (path : String) (disk : Disk) :
    (FileAccess.makeFolder path : StateM Disk _) disk =
      match disk.makeFolder path with
      | .ok disk => (.ok (), disk)
      | .error error => (.error error, disk) := by
  show update (fun disk => disk.makeFolder path) disk = _
  rw [update]
  rcases disk.makeFolder path with error | made
  · rfl
  · rfl

/-- **A request for a folder** changes nothing, or puts the folder where there was nothing. -/
theorem makeFolder_snd (path : String) (disk : Disk) :
    ((FileAccess.makeFolder path : StateM Disk _) disk).2 = disk ∨
      ∃ place, disk.lookup place = none ∧
        ((FileAccess.makeFolder path : StateM Disk _) disk).2 = disk.put place .folder := by
  rw [makeFolder_apply]
  split
  · next hmake =>
    obtain ⟨place, hlookup, rfl⟩ := makeFolder_eq_ok hmake
    exact .inr ⟨place, hlookup, rfl⟩
  · exact .inl rfl

theorem grows_makeFolder (path : String) : Grows (FileAccess.makeFolder path) := by
  intro disk
  rcases makeFolder_snd path disk with hsame | ⟨place, hlookup, hput⟩
  · rw [hsame]
    exact .refl disk
  · rw [hput]
    exact growsTo_put hlookup _

theorem grows_isFolder (path : String) : Grows (FileAccess.isFolder path) :=
  GrowsTo.refl

/-- **Making a folder and those around it** changes nothing that is there. -/
theorem grows_makeFolders (path : String) : Grows (makeFolders path) :=
  keeps_makeFolders GrowsTo.refl (fun _ _ _ => GrowsTo.trans) grows_makeFolder grows_isFolder path

/-- **A folder is made at a free path**, and no other. -/
theorem makeFolders_of_leadsTo (hleads : disk.LeadsTo path place)
    (hlookup : disk.lookup place = none) :
    (makeFolders path : StateM Disk _) disk = (.ok (), disk.put place .folder) := by
  obtain ⟨-, folder, name, hlocate, hlength, rfl⟩ := hleads
  have hmake : disk.makeFolder path = .ok (disk.put (folder ++ [name]) .folder) := by
    simp only [makeFolder, hlocate, find_eq_ok_iff.mpr ⟨hlength, hlookup⟩]
  have hrequest : (FileAccess.makeFolder path : StateM Disk _) disk =
      (.ok (), disk.put (folder ++ [name]) .folder) := by
    rw [makeFolder_apply, hmake]
  rw [makeFolders, makeNested, bind_apply, hrequest]
  rfl

/-- Names are entered one after the other. -/
theorem enter_append (disk : Disk) (names rest : List String) : ∀ folder : Place,
    disk.enter folder (names ++ rest) =
      match disk.enter folder names with
      | .error error => .error error
      | .ok entered => disk.enter entered rest := by
  induction names with
  | nil => exact fun _ => rfl
  | cons name names ih =>
    intro folder
    rw [List.cons_append, enter, enter]
    split
    · exact ih folder
    · split
      · exact ih folder.dropLast
      · rcases disk.find folder name with error | _ | _ | bytes
        · rfl
        · rfl
        · exact ih (folder ++ [name])
        · rfl

/-- A folder that is there cannot be made. -/
theorem makeFolder_of_isFolder (h : disk.isFolder path = true) :
    disk.makeFolder path = .error .alreadyExists := by
  obtain ⟨place, henter⟩ : ∃ place, disk.enterFrom path (pathNames path) = .ok place := by
    unfold isFolder at h
    rcases henter : disk.enterFrom path (pathNames path) with error | place
    · rw [henter] at h
      nomatch h
    · exact ⟨place, rfl⟩
  obtain ⟨hlength, henter⟩ := enterFrom_eq_ok_iff.mp henter
  rcases List.eq_nil_or_concat (pathNames path) with hnames | ⟨init, last, hnames⟩
  · have hlocate : disk.locate path = .ok .folder := by
      simp [locate, hnames, enterFrom, Nat.not_lt.mpr hlength, enter]
    rw [makeFolder, hlocate]
  · rw [List.concat_eq_append] at hnames
    rw [hnames, enter_append] at henter
    split at henter
    · nomatch henter
    · next folder hfolder =>
      have hfrom : disk.enterFrom path init = .ok folder := enterFrom_eq_ok_iff.mpr ⟨hlength, hfolder⟩
      by_cases hdots : last = "." ∨ last = ".."
      · have hlocate : disk.locate path = .ok .folder := by simp [locate, hnames, hfrom, hdots]
        rw [makeFolder, hlocate]
      · have hlocate : disk.locate path = .ok (.name folder last) := by
          simp [locate, hnames, hfrom, hdots]
        obtain ⟨hdot, hparent⟩ := not_or.mp hdots
        rw [enter, if_neg hdot, if_neg hparent] at henter
        -- a name that is entered stands for a folder
        split at henter
        · nomatch henter
        · next hfind => simp only [makeFolder, hlocate, hfind]
        · nomatch henter
        · nomatch henter

/-- **A folder that is there is left as it is.** -/
theorem makeFolders_of_isFolder (h : disk.isFolder path = true) :
    (makeFolders path : StateM Disk _) disk = (.ok (), disk) := by
  have hrequest : (FileAccess.makeFolder path : StateM Disk _) disk =
      (.error .alreadyExists, disk) := by
    rw [makeFolder_apply, makeFolder_of_isFolder h]
  have hask : (FileAccess.isFolder path : StateM Disk _) disk = (true, disk) := by
    rw [← h]
    rfl
  rw [makeFolders, makeNested, bind_apply, hrequest]
  show (unlessFolder path .alreadyExists : StateM Disk _) disk = _
  rw [unlessFolder, bind_apply, hask]
  rfl

/-! ## Files in one folder -/

/-- The text is the name of a file: there is something in it, but no slash. -/
def IsName (name : String) : Prop :=
  name ≠ "" ∧ '/' ∉ name.toList

/-- The path of a folder ends in a slash, or there is one behind it. -/
theorem exists_toList_inFolder (folder : String) :
    ∃ init, ∀ name, (inFolder folder name).toList = init ++ '/' :: name.toList := by
  by_cases hslash : endsInSlash folder = true
  · obtain ⟨init, hinit⟩ := List.getLast?_eq_some_iff.mp (eq_of_beq hslash)
    refine ⟨init, fun name => ?_⟩
    rw [inFolder, if_pos hslash, String.toList_append, hinit, List.append_assoc]
    rfl
  · refine ⟨folder.toList, fun name => ?_⟩
    rw [inFolder, if_neg hslash, String.toList_append, String.toList_append, List.append_assoc]
    rfl

/-- Paths into a folder differ in their last names alone. -/
theorem exists_pathNames_inFolder (folder : String) :
    ∃ names absolute, ∀ name, IsName name → pathNames (inFolder folder name) = names ++ [name] ∧
      isAbsolute (inFolder folder name) = absolute := by
  obtain ⟨init, hinit⟩ := exists_toList_inFolder folder
  refine ⟨((init.splitOn '/').map String.ofList).filter (· != ""),
    (init ++ ['/']).head? == some '/', fun name hname => ⟨?_, ?_⟩⟩
  · have hlast : name.toList.splitOn '/' = [name.toList] := List.splitOn_eq_singleton hname.2
    rw [pathNames, hinit, List.splitOn_eq_splitOnP, List.splitOnP_append_cons _ _ (by simp),
      ← List.splitOn_eq_splitOnP, ← List.splitOn_eq_splitOnP, hlast]
    simp [hname.1]
  · rw [isAbsolute, hinit]
    cases init with
    | nil => rfl
    | cons c init => rfl

/-- **A path into a folder leads to its own name.** -/
theorem LeadsTo.getLast?_eq {folder : String} (hname : IsName name)
    (h : disk.LeadsTo (inFolder folder name) place) : place.getLast? = some name := by
  obtain ⟨names, _, hinto⟩ := exists_pathNames_inFolder folder
  obtain ⟨-, around, last, hlocate, -, rfl⟩ := h
  obtain ⟨-, hlast, -⟩ := locate_eq_name_iff.mp hlocate
  rw [(hinto name hname).1, List.getLast?_concat] at hlast
  rw [List.getLast?_concat, hlast]

/-- **Names that are free in a folder are free in one and the same folder.** -/
theorem exists_folder_of_isFree {folder : String} {names : List String}
    (hnames : ∀ name ∈ names, IsName name)
    (hfree : ∀ name ∈ names, disk.isFree (inFolder folder name) = true) :
    ∃ place, ∀ name ∈ names, disk.LeadsTo (inFolder folder name) (place ++ [name]) ∧
      disk.lookup (place ++ [name]) = none := by
  obtain ⟨around, absolute, hinto⟩ := exists_pathNames_inFolder folder
  -- every path leads into the folder that the names around it lead to
  have hentered : ∀ name ∈ names, ∃ place,
      disk.enter (if absolute then [] else disk.working) around = .ok place ∧
        disk.LeadsTo (inFolder folder name) (place ++ [name]) ∧
        disk.lookup (place ++ [name]) = none := by
    intro name hname
    obtain ⟨hpath, habsolute⟩ := hinto name (hnames name hname)
    obtain ⟨_, hleads, hlookup⟩ := isFree_iff.mp (hfree name hname)
    obtain ⟨-, place, last, hlocate, -, rfl⟩ := id hleads
    obtain ⟨henter, hlast, -⟩ := locate_eq_name_iff.mp hlocate
    rw [hpath, List.getLast?_concat, Option.some.injEq] at hlast
    subst hlast
    rw [hpath, List.dropLast_concat, enterFrom_eq_ok_iff, habsolute] at henter
    exact ⟨place, henter.2, hleads, hlookup⟩
  cases henter : disk.enter (if absolute then [] else disk.working) around with
  | error error =>
    refine ⟨[], fun name hname => ?_⟩
    obtain ⟨place, hplace, -⟩ := hentered name hname
    rw [henter] at hplace
    nomatch hplace
  | ok place =>
    refine ⟨place, fun name hname => ?_⟩
    obtain ⟨place', hplace, hrest⟩ := hentered name hname
    rw [henter] at hplace
    injection hplace with hplace
    rwa [hplace]

/-- The disk with files put into a folder, one after the other: the name and the text of each. -/
def putFiles (disk : Disk) (folder : Place) : List (String × String) → Disk
  | [] => disk
  | (name, text) :: rest => (disk.put (folder ++ [name]) (.file text.toUTF8)).putFiles folder rest

/-- Files that are put into a folder change no other place. -/
theorem lookup_putFiles_of_ne {files : List (String × String)} :
    ∀ {disk : Disk}, (∀ file ∈ files, place ≠ folder ++ [file.1]) →
      (disk.putFiles folder files).lookup place = disk.lookup place := by
  induction files with
  | nil => exact fun _ => rfl
  | cons file files ih =>
    intro disk h
    rw [putFiles, ih fun other hother => h other (List.mem_cons_of_mem file hother),
      lookup_put_of_ne disk (h file (List.mem_cons_self ..))]

/-- **Files with different names are found where they were put.** -/
theorem lookup_putFiles_of_mem {files : List (String × String)} {file : String × String}
    (hnodup : (files.map (·.1)).Nodup) (hfile : file ∈ files) : ∀ {disk : Disk},
      (disk.putFiles folder files).lookup (folder ++ [file.1]) = some (.file file.2.toUTF8) := by
  induction files with
  | nil => nomatch hfile
  | cons first files ih =>
    intro disk
    obtain ⟨hnew, hnodup⟩ := List.nodup_cons.mp hnodup
    rw [putFiles]
    rcases List.mem_cons.mp hfile with rfl | hfile
    · -- no later file has the name of the first one
      have hother : ∀ other ∈ files, folder ++ [file.1] ≠ folder ++ [other.1] := by
        intro other hother he
        have hname : file.1 = other.1 := List.singleton_inj.mp (List.append_cancel_left he)
        exact hnew (List.mem_map.mpr ⟨other, hother, hname.symm⟩)
      rw [lookup_putFiles_of_ne hother]
      have hne : folder ++ [file.1] ≠ [] := by simp
      exact lookup_put_self disk hne _
    · exact ih hnodup hfile

theorem working_putFiles (files : List (String × String)) :
    ∀ disk : Disk, (disk.putFiles folder files).working = disk.working := by
  induction files with
  | nil => exact fun _ => rfl
  | cons file files ih => exact fun disk => ih _

theorem growsTo_putFiles {files : List (String × String)}
    (h : ∀ file ∈ files, disk.lookup (folder ++ [file.1]) = none) :
    disk.GrowsTo (disk.putFiles folder files) where
  working_eq := working_putFiles files disk
  entry place entry hplace := by
    have hother : ∀ file ∈ files, place ≠ folder ++ [file.1] := by
      rintro file hfile rfl
      rw [h file hfile] at hplace
      nomatch hplace
    rw [lookup_putFiles_of_ne hother, hplace]

end Disk

end Tileboard
