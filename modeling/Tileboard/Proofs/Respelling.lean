import Tileboard.Proofs.CommandRuns
import Tileboard.Proofs.FileRoundTrip

/-!
The file of a board in any spelling.

A board file may have its fields in any order, in the file as in each tile, and any spaces between
its parts.  None of this reaches the commands.

1. **One meaning** — a text spells no two files whose numbers can be read (`Spells.unique`), so a
   spelling is one of a file and of no other.

2. **Commands behind the loading** — `labels` and `decode` do with a file what they do with its
   board (`on_labels_of_load`, `on_decode_of_load`); the text is forgotten.

3. **Headline** — `load_any_spelling`: in whichever spelling of its file, a board is loaded as
   itself, is saved as the same text again, and the commands give the same.
-/

namespace Tileboard

namespace BoardFile

/-- A text spells one file: it is read as each file that it spells. -/
theorem Spells.unique {file file' : BoardFile} (hfits : file.Fits) (hfits' : file'.Fits)
    {text : List Char} (h : file.Spells text) (h' : file'.Spells text) : file = file' := by
  rw [← String.toList_ofList (l := text)] at h h'
  have hread := read_of_spells hfits h
  rw [read_of_spells hfits' h'] at hread
  injection hread with hread
  exact hread.symm

instance (cs : List Char) : Decidable (Spaces cs) :=
  List.decidableBAll (fun c => isSpace c = true) cs

/-- A field with no spaces in it. -/
theorem isField_tight {name : String} {isValue : List Char → Prop} {value : List Char}
    (h : isValue value) : IsField name isValue (printName name ++ ':' :: value) :=
  ⟨[], [], value, spaces_nil, spaces_nil, h, rfl⟩

end BoardFile

namespace Command

variable {board : Board} {disk : Disk} {path text : String}

/-- What `decode` does when it has the board. -/
def saveScripts (board : Board) (output : String) : ExceptT CommandError (StateM Disk) String := do
  request (.creating output) (makeFolders output)
  writeAll output (scriptFiles board.scripts)
  return ""

/-- A file from whose text a board is loaded gives the board, and nothing is written. -/
theorem on_loadBoard_of_load (htext : disk.readText path = .ok text)
    (hload : Board.load text = .ok board) : on (loadBoard path) disk = (.ok board, disk) := by
  rw [on_loadBoard, htext]
  simp only [hload]

theorem on_labels_of_load (htext : disk.readText path = .ok text)
    (hload : Board.load text = .ok board) :
    on (run (.labels path)) disk = (.ok board.labelTable, disk) := by
  rw [on_labels, on_loadBoard_of_load htext hload]

theorem on_decode_of_load (htext : disk.readText path = .ok text)
    (hload : Board.load text = .ok board) (output : String) :
    on (run (.decode path output)) disk = on (saveScripts board output) disk := by
  have hboard := on_loadBoard_of_load htext hload
  unfold on at hboard ⊢
  rw [run, bind_apply, hboard]
  rfl

end Command

namespace Board

open BoardFile Command

/-- **The spelling of a board's file changes nothing.**  Whatever the order of the fields and the
spaces between the parts of the text, the board is loaded, its file is written again in one way, and
what `labels` and `decode` give depends on the board alone. -/
theorem load_any_spelling {board : Board} (h : Reachable board) {text : String}
    (htext : board.file.Spells text.toList) :
    load text = .ok board ∧
      (load text).map fileText = .ok board.fileText ∧
      ∀ (disk : Disk) (path : String), disk.readText path = .ok text →
        on (run (.labels path)) disk = (.ok board.labelTable, disk) ∧
          ∀ output, on (run (.decode path output)) disk = on (saveScripts board output) disk := by
  have hload : load text = .ok board := load_of_spells h.wellFormed htext
  refine ⟨hload, by rw [hload]; rfl, fun disk path hread => ?_⟩
  exact ⟨on_labels_of_load hread hload, on_decode_of_load hread hload⟩

/-- A board with an empty cell and a tile, in a file whose fields stand in the opposite order, with
spaces of all kinds between the parts. -/
theorem load_any_spelling_reversed :
    ∃ board, board = (empty ⟨1, 2, by decide, by decide, by decide⟩).set 0 1 (some ⟨.play, 3⟩) ∧
      load ("\t\x7b \"cells\":[[null ,\x7b\"param\":3,\n\"kind\":\"play\"\x7d]],\r\n" ++
        "\"cols\":2,\"rows\":1\x7d\n") = .ok board := by
  have hreach := (Reachable.empty ⟨1, 2, by decide, by decide, by decide⟩).perform
    (.set 0 1 (some ⟨.play, 3⟩))
  refine ⟨_, rfl, (load_any_spelling hreach ?_).1⟩
  have hfile : (perform (empty ⟨1, 2, by decide, by decide, by decide⟩)
      (.set 0 1 (some ⟨.play, 3⟩))).file = ⟨1, 2, [[none, some ⟨.play, 3⟩]]⟩ := by decide
  have htab : Spaces ['\t'] := by decide
  have hblank : Spaces [' '] := by decide
  have hfeed : Spaces ['\n'] := by decide
  have hreturn : Spaces ['\r', '\n'] := by decide
  -- from the inside out: the tile, the row, the list of the rows, the file
  have htile : IsCell (some ⟨.play, 3⟩) _ :=
    .tile ⟨[.param, .kind], _, by decide,
      .cons (isField_tight rfl) (.cons (isField_tight rfl) .nil),
      _, .more spaces_nil spaces_nil (.last hfeed spaces_nil), rfl⟩
  have hrow : IsRow [none, some ⟨.play, 3⟩] _ :=
    ⟨_, .cons .empty (.cons htile .nil),
      _, .more spaces_nil hblank (.last spaces_nil spaces_nil), rfl⟩
  have hcells : IsList IsRow [[none, some ⟨.play, 3⟩]] _ :=
    ⟨_, .cons hrow .nil, _, .last spaces_nil spaces_nil, rfl⟩
  have hobject : IsObject FileField.all
      (fun field => IsField field.name (field.IsValue ⟨1, 2, [[none, some ⟨.play, 3⟩]]⟩)) _ :=
    ⟨[.cells, .cols, .rows], _, by decide,
      .cons (isField_tight hcells) (.cons (isField_tight rfl) (.cons (isField_tight rfl) .nil)),
      _, .more hblank spaces_nil (.more hreturn spaces_nil (.last spaces_nil spaces_nil)), rfl⟩
  rw [hfile]
  exact ⟨['\t'], ['\n'], _, htab, hfeed, hobject, by decide +kernel⟩

end Board

end Tileboard
