import Tileboard.Proofs.ReaderRuns
import Mathlib.Data.List.Perm.Basic

/-!
The reader of board files understands every spelling.

1. **Tiles** — a tile with a field filled in (`OpenToken.fill`) is what reading the field gives
   (`readsItem_tokenField`).  Fields may be filled in any order (`OpenToken.foldl_fill_of_perm`), so a
   tile is read whatever the order of its fields (`reads_tile`).

2. **Cells and rows** — from cells to a row, and from rows to the cells of a file (`reads_cell`,
   `reads_row`, `reads_rows`).

3. **Files** — the same for the fields of the file, and so every spelling of a file whose numbers fit
   is read as that file (`read_of_spells`).
-/

namespace Tileboard.BoardFile

open Text

/-! ## Tiles -/

/-- The tile with one of its fields filled in. -/
def OpenToken.fill (token : Token) (t : OpenToken) : TokenField → OpenToken
  | .kind => { t with kind := some token.kind }
  | .param => { t with param := some token.param }

/-- The brackets are those of an object, and the field has not been read. -/
def OpenToken.Awaits (t : OpenToken) (field : TokenField) : Prop :=
  t.form = .named ∧ t.has field = false

/-- The rotation fits the type that holds it. -/
def TokenFits (token : Token) : Prop :=
  token.param < Nat.pow 2 8

theorem accept_param (t : OpenToken) {n : Nat} (h : n < Nat.pow 2 8) :
    (NumberUse.param t).accept (.whole n) = .ok (.token { t with param := some n }) := by
  simp only [NumberUse.accept, NumberScan.value_whole, bind, Except.bind, bounded_of_lt h]
  rfl

theorem OpenToken.key_name {t : OpenToken} {field : TokenField} (h : t.has field = false) :
    t.key field.name = .ok (t.wanted field) := by
  have hname : TokenField.ofName? field.name = some field := by cases field <;> rfl
  simp [key, hname, h]

theorem reads_tokenField {token : Token} (htoken : TokenFits token) (t : OpenToken)
    (field : TokenField) {value : List Char} (h : field.IsValue token value) :
    (State.value (t.wanted field)).Reads value (.token (t.fill token field)) := by
  cases field with
  | kind =>
    obtain rfl := h
    exact reads_kind t token.kind
  | param =>
    obtain rfl := h
    have hlt : token.param < Nat.pow 2 64 := Nat.lt_trans htoken (by decide)
    exact reads_write (fun _ => rfl) hlt (accept_param t htoken)

theorem readsItem_tokenField {token : Token} (htoken : TokenFits token) {t : OpenToken}
    {field : TokenField} {item : List Char} (ht : t.Awaits field)
    (h : IsField field.name (field.IsValue token) item) :
    ReadsItem (.token t) item (.token (t.fill token field)) := by
  have hobject : (Container.token t).isObject = true := by simp [Container.isObject, ht.1]
  refine readsItem_field hobject rfl (verbatim_tokenField field) ?_
    (fun _ hvalue => reads_tokenField htoken t field hvalue) h
  rw [StringUse.accept, OpenToken.key_name ht.2]
  rfl

theorem OpenToken.awaits_fill {token : Token} {t : OpenToken} {field other : TokenField}
    (hne : other ≠ field) (h : t.Awaits other) : (t.fill token field).Awaits other := by
  cases field <;> cases other <;> first | exact absurd rfl hne | exact h

/-- The order in which fields are filled in does not matter. -/
theorem OpenToken.foldl_fill_of_perm {token : Token} {order : List TokenField}
    (h : order.Perm TokenField.all) (row : OpenRow) :
    order.foldl (OpenToken.fill token) (.start row .named) =
      ⟨row, .named, some token.kind, some token.param⟩ := by
  have hcomm : RightCommutative (OpenToken.fill token) :=
    ⟨fun _ a b => by cases a <;> cases b <;> rfl⟩
  rw [h.foldl_eq]
  rfl

theorem reads_tile {token : Token} (htoken : TokenFits token) {text : List Char}
    (h : IsObject TokenField.all (fun field => IsField field.name (field.IsValue token)) text)
    (r : OpenRow) : (State.value (.cell r)).Reads text (.row (r.push (some token))) := by
  intro rest _
  obtain ⟨order, items, hperm, hitems, htext⟩ := h
  have hnodup : order.Nodup := hperm.nodup_iff.mpr (by decide)
  have hall := readsItems_fields Container.token OpenToken.Awaits hitems hnodup
    (fun _ _ _ hawaits hitem => readsItem_tokenField htoken hawaits hitem)
    (fun _ _ _ hne hawaits => OpenToken.awaits_fill hne hawaits)
    (.start r .named) (fun field _ => ⟨rfl, by cases field <;> rfl⟩)
  rw [OpenToken.foldl_fill_of_perm hperm] at hall
  exact feedAll_bracketed rfl hall htext rest

/-! ## Cells and rows -/

/-- The numbers of the tile in a cell fit the types that hold them. -/
def CellFits (cell : Cell) : Prop :=
  ∀ token, cell = some token → TokenFits token

theorem begins_isCell {cell : Cell} {text : List Char} (h : IsCell cell text) : Begins text := by
  cases h with
  | empty => exact ⟨'n', _, rfl, rfl, by decide⟩
  | tile h =>
    obtain ⟨_, _, _, _, _, _, rfl⟩ := h
    exact ⟨'\x7b', _, rfl, rfl, by decide⟩

theorem reads_cell {cell : Cell} (hcell : CellFits cell) {text : List Char} (h : IsCell cell text)
    (r : OpenRow) : (State.value (.cell r)).Reads text (.row (r.push cell)) := by
  cases h with
  | empty => exact reads_null r
  | tile h => exact reads_tile (hcell _ rfl) h r

theorem foldl_push_row (row : List Cell) (r : OpenRow) :
    row.foldl OpenRow.push r = ⟨r.cells, r.row ++ row.toArray⟩ := by
  induction row generalizing r with
  | nil => simp
  | cons cell row ih => rw [List.foldl_cons, ih]; simp [OpenRow.push]

theorem foldl_push_cells (rows : List (List Cell)) (m : OpenCells) :
    rows.foldl OpenCells.push m = ⟨m.file, m.rows ++ rows.toArray⟩ := by
  induction rows generalizing m with
  | nil => simp
  | cons row rows ih => rw [List.foldl_cons, ih]; simp [OpenCells.push]

theorem begins_isList {α : Type} {isItem : α → List Char → Prop} {members : List α}
    {text : List Char} (h : IsList isItem members text) : Begins text := by
  obtain ⟨_, _, _, _, rfl⟩ := h
  exact ⟨'[', _, rfl, rfl, by decide⟩

theorem reads_row {row : List Cell} (hrow : ∀ cell ∈ row, CellFits cell) {text : List Char}
    (h : IsRow row text) (m : OpenCells) :
    (State.value (.row m)).Reads text (.cells (m.push row)) := by
  intro rest _
  obtain ⟨items, hitems, htext⟩ := h
  have hall := readsItems_list Container.row hitems
    (fun r cell hcell _ hitem => readsItem_of_value rfl rfl (begins_isCell hitem)
      (reads_cell (hrow cell hcell) hitem r)) ⟨m, #[]⟩
  rw [foldl_push_row] at hall
  rw [feedAll_bracketed rfl hall htext]
  simp [Container.close, Except.bind]

theorem reads_rows {rows : List (List Cell)} (hrows : ∀ row ∈ rows, ∀ cell ∈ row, CellFits cell)
    {text : List Char} (h : IsList IsRow rows text) (f : OpenFile) :
    (State.value (.cells f)).Reads text (.file { f with cells := some rows }) := by
  intro rest _
  obtain ⟨items, hitems, htext⟩ := h
  have hall := readsItems_list Container.cells hitems
    (fun m row hrow _ hitem => readsItem_of_value rfl rfl (begins_isList hitem)
      (reads_row (hrows row hrow) hitem m)) ⟨f, #[]⟩
  rw [foldl_push_cells] at hall
  rw [feedAll_bracketed rfl hall htext]
  simp [Container.close, Except.bind]

/-! ## Files -/

/-- The numbers of the file fit the types that hold them. -/
structure Fits (file : BoardFile) : Prop where
  rows_lt : file.rows < Nat.pow 2 64
  cols_lt : file.cols < Nat.pow 2 64
  cells_fit : ∀ row ∈ file.cells, ∀ cell ∈ row, CellFits cell

/-- The file with one of its fields filled in. -/
def OpenFile.fill (file : BoardFile) (f : OpenFile) : FileField → OpenFile
  | .rows => { f with rows := some file.rows }
  | .cols => { f with cols := some file.cols }
  | .cells => { f with cells := some file.cells }

/-- The brackets are those of an object, and the field has not been read. -/
def OpenFile.Awaits (f : OpenFile) (field : FileField) : Prop :=
  f.form = .named ∧ f.has field = false

theorem accept_rows (f : OpenFile) {n : Nat} (h : n < Nat.pow 2 64) :
    (NumberUse.rows f).accept (.whole n) = .ok (.file { f with rows := some n }) := by
  simp only [NumberUse.accept, NumberScan.value_whole, bind, Except.bind, bounded_of_lt h]
  rfl

theorem accept_cols (f : OpenFile) {n : Nat} (h : n < Nat.pow 2 64) :
    (NumberUse.cols f).accept (.whole n) = .ok (.file { f with cols := some n }) := by
  simp only [NumberUse.accept, NumberScan.value_whole, bind, Except.bind, bounded_of_lt h]
  rfl

theorem OpenFile.key_name {f : OpenFile} {field : FileField} (h : f.has field = false) :
    f.key field.name = .ok (f.wanted field) := by
  have hname : FileField.ofName? field.name = some field := by cases field <;> rfl
  simp [key, hname, h]

theorem reads_fileField {file : BoardFile} (hfile : file.Fits) (f : OpenFile)
    (field : FileField) {value : List Char} (h : field.IsValue file value) :
    (State.value (f.wanted field)).Reads value (.file (f.fill file field)) := by
  cases field with
  | rows =>
    obtain rfl := h
    exact reads_write (fun _ => rfl) hfile.rows_lt (accept_rows f hfile.rows_lt)
  | cols =>
    obtain rfl := h
    exact reads_write (fun _ => rfl) hfile.cols_lt (accept_cols f hfile.cols_lt)
  | cells => exact reads_rows hfile.cells_fit h f

theorem readsItem_fileField {file : BoardFile} (hfile : file.Fits) {f : OpenFile}
    {field : FileField} {item : List Char} (hf : f.Awaits field)
    (h : IsField field.name (field.IsValue file) item) :
    ReadsItem (.file f) item (.file (f.fill file field)) := by
  have hobject : (Container.file f).isObject = true := by simp [Container.isObject, hf.1]
  refine readsItem_field hobject rfl (verbatim_fileField field) ?_
    (fun _ hvalue => reads_fileField hfile f field hvalue) h
  rw [StringUse.accept, OpenFile.key_name hf.2]
  rfl

theorem OpenFile.awaits_fill {file : BoardFile} {f : OpenFile} {field other : FileField}
    (hne : other ≠ field) (h : f.Awaits other) : (f.fill file field).Awaits other := by
  cases field <;> cases other <;> first | exact absurd rfl hne | exact h

/-- The order in which fields are filled in does not matter. -/
theorem OpenFile.foldl_fill_of_perm {file : BoardFile} {order : List FileField}
    (h : order.Perm FileField.all) :
    order.foldl (OpenFile.fill file) (.start .named) =
      ⟨.named, some file.rows, some file.cols, some file.cells⟩ := by
  have hcomm : RightCommutative (OpenFile.fill file) :=
    ⟨fun _ a b => by cases a <;> cases b <;> rfl⟩
  rw [h.foldl_eq]
  rfl

theorem feedAll_file {file : BoardFile} (hfile : file.Fits) {text : List Char}
    (h : IsObject FileField.all (fun field => IsField field.name (field.IsValue file)) text)
    (rest : List Char) : State.start.feedAll (text ++ rest) = (State.done file).feedAll rest := by
  obtain ⟨order, items, hperm, hitems, htext⟩ := h
  have hnodup : order.Nodup := hperm.nodup_iff.mpr (by decide)
  have hall := readsItems_fields Container.file OpenFile.Awaits hitems hnodup
    (fun _ _ _ hawaits hitem => readsItem_fileField hfile hawaits hitem)
    (fun _ _ _ hne hawaits => OpenFile.awaits_fill hne hawaits)
    (.start .named) (fun field _ => ⟨rfl, by cases field <;> rfl⟩)
  rw [OpenFile.foldl_fill_of_perm hperm] at hall
  exact feedAll_bracketed rfl hall htext rest

/-- **Every spelling of a file is read as that file.** -/
theorem read_of_spells {file : BoardFile} (hfile : file.Fits) {text : String}
    (h : file.Spells text.toList) : read text = .ok file := by
  obtain ⟨left, right, object, hl, hr, hobject, htext⟩ := h
  have hright := (State.idle_done file).feedAll hr []
  rw [List.append_nil] at hright
  rw [read, htext, State.start, (State.idle_value .file).feedAll hl]
  show ((State.start.feedAll (object ++ right)).bind State.finish) = _
  rw [feedAll_file hfile hobject, hright]
  rfl

end Tileboard.BoardFile
