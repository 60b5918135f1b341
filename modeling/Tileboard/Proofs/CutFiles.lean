import Tileboard.Proofs.FileRoundTrip
import Tileboard.Proofs.ReaderWaits

/-!
Board files that are cut short or go on too long.

1. **Cut short** — the reader waits through every spelling of a file up to its last bracket: through
   tiles, cells and rows (`waits_tile`, `waits_cell`, `waits_row`, `waits_rows`), and so through the
   file (`unfinished_of_cut`).

2. **Going on** — behind the last bracket there may be spaces, and the first other character is the
   fault (`feedAll_done`).

3. **Loading** — so the text of a board is loaded in full and with spaces behind it, and in no other
   extent (`load_cut_or_extended`).
-/

namespace Tileboard.BoardFile

open Text

/-! ## Tiles -/

theorem waits_tokenField {token : Token} (htoken : TokenFits token) (t : OpenToken)
    (field : TokenField) {value : List Char} (h : field.IsValue token value) :
    (State.value (t.wanted field)).Waits value := by
  cases field with
  | kind =>
    obtain rfl := h
    exact waits_kind t token.kind
  | param =>
    obtain rfl := h
    have hlt : token.param < Nat.pow 2 64 := Nat.lt_trans htoken (by decide)
    exact waits_write (fun _ => rfl) _ hlt fun m hm =>
      ⟨_, accept_param t (Nat.lt_of_le_of_lt hm htoken)⟩

theorem waitsItem_tokenField {token : Token} (htoken : TokenFits token) {t : OpenToken}
    {field : TokenField} {item : List Char} (ht : t.Awaits field)
    (h : IsField field.name (field.IsValue token) item) : WaitsItem (.token t) item := by
  have hobject : (Container.token t).isObject = true := by simp [Container.isObject, ht.1]
  refine waitsItem_field hobject rfl (verbatim_tokenField field) ?_
    (fun _ hvalue => waits_tokenField htoken t field hvalue) h
  rw [StringUse.accept, OpenToken.key_name ht.2]
  rfl

theorem waits_tile {token : Token} (htoken : TokenFits token) {text : List Char}
    (h : IsObject TokenField.all (fun field => IsField field.name (field.IsValue token)) text)
    (r : OpenRow) : (State.value (.cell r)).Waits text := by
  obtain ⟨order, items, hperm, hitems, htext⟩ := h
  have hnodup : order.Nodup := hperm.nodup_iff.mpr (by decide)
  have hall := waitsItems_fields Container.token OpenToken.Awaits hitems hnodup
    (fun _ _ _ hawaits hitem => readsItem_tokenField htoken hawaits hitem)
    (fun _ _ _ hawaits hitem => waitsItem_tokenField htoken hawaits hitem)
    (fun _ _ _ hne hawaits => OpenToken.awaits_fill hne hawaits)
    (.start r .named) (fun field _ => ⟨rfl, by cases field <;> rfl⟩)
  rw [OpenToken.foldl_fill_of_perm hperm] at hall
  exact waits_bracketed (State.unfinished_value _) rfl hall htext rfl
    (State.unfinished_inside (by decide) _)

/-! ## Cells and rows -/

theorem waits_cell {cell : Cell} (hcell : CellFits cell) {text : List Char} (h : IsCell cell text)
    (r : OpenRow) : (State.value (.cell r)).Waits text := by
  cases h with
  | empty => exact waits_null r
  | tile h => exact waits_tile (hcell _ rfl) h r

theorem waits_row {row : List Cell} (hrow : ∀ cell ∈ row, CellFits cell) {text : List Char}
    (h : IsRow row text) (m : OpenCells) : (State.value (.row m)).Waits text := by
  obtain ⟨items, hitems, htext⟩ := h
  have hall := waitsItems_list Container.row hitems
    (fun r cell hcell _ hitem => readsItem_of_value rfl rfl (begins_isCell hitem)
      (reads_cell (hrow cell hcell) hitem r))
    (fun r cell hcell _ hitem => waitsItem_of_value rfl rfl (begins_isCell hitem)
      (waits_cell (hrow cell hcell) hitem r)) ⟨m, #[]⟩
  exact waits_bracketed (State.unfinished_value _) rfl hall htext rfl
    (State.unfinished_inside (by decide) _)

theorem waits_rows {rows : List (List Cell)} (hrows : ∀ row ∈ rows, ∀ cell ∈ row, CellFits cell)
    {text : List Char} (h : IsList IsRow rows text) (f : OpenFile) :
    (State.value (.cells f)).Waits text := by
  obtain ⟨items, hitems, htext⟩ := h
  have hall := waitsItems_list Container.cells hitems
    (fun m row hrow _ hitem => readsItem_of_value rfl rfl (begins_isList hitem)
      (reads_row (hrows row hrow) hitem m))
    (fun m row hrow _ hitem => waitsItem_of_value rfl rfl (begins_isList hitem)
      (waits_row (hrows row hrow) hitem m)) ⟨f, #[]⟩
  exact waits_bracketed (State.unfinished_value _) rfl hall htext rfl
    (State.unfinished_inside (by decide) _)

/-! ## Files -/

theorem waits_fileField {file : BoardFile} (hfile : file.Fits) (f : OpenFile) (field : FileField)
    {value : List Char} (h : field.IsValue file value) :
    (State.value (f.wanted field)).Waits value := by
  cases field with
  | rows =>
    obtain rfl := h
    exact waits_write (fun _ => rfl) _ hfile.rows_lt fun m hm =>
      ⟨_, accept_rows f (Nat.lt_of_le_of_lt hm hfile.rows_lt)⟩
  | cols =>
    obtain rfl := h
    exact waits_write (fun _ => rfl) _ hfile.cols_lt fun m hm =>
      ⟨_, accept_cols f (Nat.lt_of_le_of_lt hm hfile.cols_lt)⟩
  | cells => exact waits_rows hfile.cells_fit h f

theorem waitsItem_fileField {file : BoardFile} (hfile : file.Fits) {f : OpenFile}
    {field : FileField} {item : List Char} (hf : f.Awaits field)
    (h : IsField field.name (field.IsValue file) item) : WaitsItem (.file f) item := by
  have hobject : (Container.file f).isObject = true := by simp [Container.isObject, hf.1]
  refine waitsItem_field hobject rfl (verbatim_fileField field) ?_
    (fun _ hvalue => waits_fileField hfile f field hvalue) h
  rw [StringUse.accept, OpenFile.key_name hf.2]
  rfl

/-- **An object that spells a file is unfinished wherever it is cut.** -/
theorem unfinished_of_cut {file : BoardFile} (hfile : file.Fits) {text cut : List Char}
    (h : IsObject FileField.all (fun field => IsField field.name (field.IsValue file)) text)
    (hcut : cut <+: text) (hne : cut ≠ text) :
    ∃ s, State.start.feedAll cut = .ok s ∧ s.Unfinished := by
  obtain ⟨order, items, hperm, hitems, content, hsep, rfl⟩ := h
  have hnodup : order.Nodup := hperm.nodup_iff.mpr (by decide)
  have hall := waitsItems_fields Container.file OpenFile.Awaits hitems hnodup
    (fun _ _ _ hawaits hitem => readsItem_fileField hfile hawaits hitem)
    (fun _ _ _ hawaits hitem => waitsItem_fileField hfile hawaits hitem)
    (fun _ _ _ hne hawaits => OpenFile.awaits_fill hne hawaits)
    (.start .named) (fun field _ => ⟨rfl, by cases field <;> rfl⟩)
  have hwaits : State.start.Waits ('\x7b' :: content) :=
    waits_open (State.unfinished_value .file) rfl hall hsep
  -- only the closing bracket finishes the file
  refine hwaits cut ?_
  rw [← List.cons_append, List.prefix_concat_iff] at hcut
  exact hcut.resolve_left hne

/-- **Behind a file there are spaces alone.** -/
theorem feedAll_done (file : BoardFile) (rest : List Char) : (State.done file).feedAll rest =
    if rest.all isSpace = true then .ok (.done file) else .error .trailingCharacters := by
  induction rest with
  | nil => rfl
  | cons c rest ih =>
    by_cases hc : isSpace c = true
    · rw [State.feedAll_cons_of_feed (State.idle_done file c hc), ih, List.all_cons, hc,
        Bool.true_and]
    · have hfeed : (State.done file).feed c = .error .trailingCharacters := if_neg hc
      rw [State.feedAll_cons, hfeed, List.all_cons, Bool.eq_false_of_not_eq_true hc]
      rfl

/-! ## Reading -/

theorem read_of_cut {file : BoardFile} (hfile : file.Fits) {cut : String}
    (hcut : cut.toList <+: file.printChars) (hne : cut.toList ≠ file.printChars) :
    ∃ what, read cut = .error (.unfinished what) := by
  obtain ⟨s, hs, what, hwhat⟩ := unfinished_of_cut hfile (isObject_printChars file) hcut hne
  refine ⟨what, ?_⟩
  rw [read, hs]
  exact hwhat

theorem read_print_append {file : BoardFile} (hfile : file.Fits) (rest : String) :
    read (file.print ++ rest) =
      if rest.toList.all isSpace = true then .ok file else .error .trailingCharacters := by
  rw [read, String.toList_append, print, String.toList_ofList,
    feedAll_file hfile (isObject_printChars file), feedAll_done]
  split
  · rfl
  · rfl

end Tileboard.BoardFile

namespace Tileboard.Board

variable {board : Board}

/-! ## Loading -/

theorem load_of_read_error {text : String} {fault : BoardFile.Fault}
    (h : BoardFile.read text = .error fault) : load text = .error (.text fault) := by
  rw [load, h]

/-- **The text of a board is never taken for another, cut short or going on.**  For every board that
can be reached:

* every beginning of its text but the text itself, the empty one included, is refused as a text that
  has ended too early;
* the text with anything behind it is loaded as the board if there are only blanks, tabs, line feeds
  and carriage returns, and is refused otherwise because of what is behind it. -/
theorem load_cut_or_extended (h : Reachable board) :
    (∀ cut : String, cut.toList <+: board.fileText.toList → cut ≠ board.fileText →
      ∃ fault, load cut = .error (.text fault) ∧
        ∃ what, fault.message = "EOF while parsing" ++ what) ∧
    (∀ rest : String,
      ((∀ c ∈ rest.toList, c = ' ' ∨ c = '\t' ∨ c = '\n' ∨ c = '\r') →
        load (board.fileText ++ rest) = .ok board) ∧
      ((¬ ∀ c ∈ rest.toList, c = ' ' ∨ c = '\t' ∨ c = '\n' ∨ c = '\r') →
        load (board.fileText ++ rest) = .error (.text .trailingCharacters))) := by
  have hwf := h.wellFormed
  have hfits := hwf.fits_file
  refine ⟨fun cut hcut hne => ?_, fun rest => ?_⟩
  · have htext : board.fileText.toList = board.file.printChars := String.toList_ofList
    have hne' : cut.toList ≠ board.file.printChars := by
      rw [← htext]
      exact fun he => hne (String.toList_inj.mp he)
    obtain ⟨what, hwhat⟩ := BoardFile.read_of_cut hfits (htext ▸ hcut) hne'
    refine ⟨.unfinished what, load_of_read_error hwhat, " " ++ what.text, ?_⟩
    cases what <;> rfl
  · have hspaces : rest.toList.all BoardFile.isSpace = true ↔
        ∀ c ∈ rest.toList, c = ' ' ∨ c = '\t' ∨ c = '\n' ∨ c = '\r' := by
      simp [BoardFile.isSpace, or_assoc, or_left_comm]
    have hread := BoardFile.read_print_append hfits rest
    rw [← hspaces]
    constructor
    · intro hall
      rw [if_pos hall] at hread
      rw [load, fileText, hread]
      simp only [hwf.check_file]
    · intro hall
      rw [if_neg hall] at hread
      exact load_of_read_error hread

/-- A board with one tile: its text cut in front of its first character and within the number of its
rows, and its text with a line feed and with a second bracket behind it. -/
theorem load_cut_or_extended_one_tile :
    ∃ board, board = (empty ⟨1, 1, by decide, by decide, by decide⟩).set 0 0 (some ⟨.play, 3⟩) ∧
      (∃ fault, load "" = .error (.text fault) ∧
        ∃ what, fault.message = "EOF while parsing" ++ what) ∧
      (∃ fault, load "\x7b\n  \"rows\": 1" = .error (.text fault) ∧
        ∃ what, fault.message = "EOF while parsing" ++ what) ∧
      load (board.fileText ++ "\n") = .ok board ∧
      load (board.fileText ++ "\x7d") = .error (.text .trailingCharacters) := by
  have hreach := (Reachable.empty ⟨1, 1, by decide, by decide, by decide⟩).perform
    (.set 0 0 (some ⟨.play, 3⟩))
  obtain ⟨hcut, hrest⟩ := load_cut_or_extended hreach
  refine ⟨_, rfl, ?_, ?_, ?_, ?_⟩
  · exact hcut "" List.nil_prefix (by decide +kernel)
  · exact hcut "\x7b\n  \"rows\": 1" (by decide +kernel) (by decide +kernel)
  · exact (hrest "\n").1 (by simp)
  · exact (hrest "\x7d").2 (by simp)

end Tileboard.Board
