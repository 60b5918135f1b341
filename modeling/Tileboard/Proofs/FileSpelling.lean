import Tileboard.BoardFile.Printer
import Tileboard.BoardFile.Reader
import Mathlib.Data.List.Forall2

/-!
The spellings of a board file.

What a file says does not fix its text: the fields of an object stand in any order, and there may be
spaces between any two parts of the text.  This file says which texts spell a file, one definition
for each production, and without the reader or its states.

1. **Brackets** — items with commas between them and spaces around them (`Separated`, `Bracketed`).

2. **Objects and lists** — an object has one item for each of its fields, in some order
   (`IsObject`); a list has one for each of its members, in theirs (`IsList`).

3. **Files** — cells, rows and the whole file (`IsCell`, `IsRow`, `Spells`), and the printed text as
   one of the spellings (`spells_printChars`).
-/

namespace Tileboard.BoardFile

open Text

/-! ## Brackets -/

/-- A text of spaces, or without any character. -/
def Spaces (cs : List Char) : Prop :=
  ∀ c ∈ cs, isSpace c = true

/-- Items with commas between them and spaces around them. -/
inductive Separated : List (List Char) → List Char → Prop
  | none {gap : List Char} (h : Spaces gap) : Separated [] gap
  | last {item left right : List Char} (hl : Spaces left) (hr : Spaces right) :
      Separated [item] (left ++ (item ++ right))
  | more {item next left right rest : List Char} {items : List (List Char)} (hl : Spaces left)
      (hr : Spaces right) (h : Separated (next :: items) rest) :
      Separated (item :: next :: items) (left ++ (item ++ (right ++ ',' :: rest)))

/-- Items between two brackets. -/
def Bracketed (openBracket closeBracket : Char) (items : List (List Char)) (text : List Char) :
    Prop :=
  ∃ content, Separated items content ∧ text = openBracket :: (content ++ [closeBracket])

/-! ## Objects and lists -/

/-- The name of a field and a value of the given form. -/
def IsField (name : String) (isValue : List Char → Prop) (text : List Char) : Prop :=
  ∃ left right value, Spaces left ∧ Spaces right ∧ isValue value ∧
    text = printName name ++ (left ++ ':' :: (right ++ value))

/-- An object with one item of the given form for each of its fields, in any order. -/
def IsObject {φ : Type} (fields : List φ) (isItem : φ → List Char → Prop) (text : List Char) :
    Prop :=
  ∃ order items, order.Perm fields ∧ List.Forall₂ isItem order items ∧
    Bracketed '\x7b' '\x7d' items text

/-- A list with one item of the given form for each of its members. -/
def IsList {α : Type} (isItem : α → List Char → Prop) (members : List α) (text : List Char) :
    Prop :=
  ∃ items, List.Forall₂ isItem members items ∧ Bracketed '[' ']' items text

/-! ## Files -/

/-- The value of a field of the tile. -/
def TokenField.IsValue (token : Token) : TokenField → List Char → Prop
  | .kind, text => text = printName token.kind.key
  | .param, text => text = Numeral.write token.param

/-- What a cell may look like. -/
inductive IsCell : Cell → List Char → Prop
  | empty : IsCell none "null".toList
  | tile {token : Token} {text : List Char}
      (h : IsObject TokenField.all (fun field => IsField field.name (field.IsValue token)) text) :
      IsCell (some token) text

/-- What a row may look like. -/
def IsRow : List Cell → List Char → Prop :=
  IsList IsCell

/-- The value of a field of the file. -/
def FileField.IsValue (file : BoardFile) : FileField → List Char → Prop
  | .rows, text => text = Numeral.write file.rows
  | .cols, text => text = Numeral.write file.cols
  | .cells, text => IsList IsRow file.cells text

/-- The text says what the file says: it is an object with the file's fields, and there may be
spaces around it. -/
def Spells (file : BoardFile) (text : List Char) : Prop :=
  ∃ left right object, Spaces left ∧ Spaces right ∧
    IsObject FileField.all (fun field => IsField field.name (field.IsValue file)) object ∧
    text = left ++ (object ++ right)

/-! ## The printed text -/

theorem spaces_nil : Spaces [] := by
  intro c hc
  nomatch hc

theorem spaces_newline_indent (depth : Nat) : Spaces ('\n' :: indent depth) := by
  intro c hc
  rcases List.mem_cons.mp hc with rfl | hc
  · rfl
  · rw [List.eq_of_mem_replicate hc]
    rfl

/-- Items one to a line are separated by the commas that end the lines. -/
theorem separated_lines (depth : Nat) (item : List Char) (items : List (List Char)) :
    Separated (item :: items)
      ('\n' :: [',', '\n'].intercalate ((item :: items).map (indent (depth + 1) ++ ·)) ++
        '\n' :: indent depth) := by
  induction items generalizing item with
  | nil =>
    have h : Separated [item] _ :=
      .last (spaces_newline_indent (depth + 1)) (spaces_newline_indent depth)
    simpa using h
  | cons next items ih =>
    have h : Separated (item :: next :: items) _ :=
      .more (spaces_newline_indent (depth + 1)) spaces_nil (ih next)
    simpa [List.intercalate_cons_cons] using h

theorem bracketed_printItems (openBracket closeBracket : Char) (depth : Nat)
    (items : List (List Char)) :
    Bracketed openBracket closeBracket items (printItems openBracket closeBracket depth items) := by
  cases items with
  | nil => exact ⟨[], .none spaces_nil, rfl⟩
  | cons item items =>
    refine ⟨_, separated_lines depth item items, ?_⟩
    simp [printItems]

theorem isField_printField {name : String} {isValue : List Char → Prop} {value : List Char}
    (h : isValue value) : IsField name isValue (printField name value) := by
  have hspace : Spaces [' '] := by
    intro c hc
    rw [List.mem_singleton.mp hc]
    rfl
  exact ⟨[], [' '], value, spaces_nil, hspace, h, rfl⟩

theorem isCell_printCell (cell : Cell) : IsCell cell (printCell cell) := by
  cases cell with
  | none => exact .empty
  | some token =>
    refine .tile ⟨TokenField.all, _, .refl _, ?_, bracketed_printItems ..⟩
    exact .cons (isField_printField rfl) (.cons (isField_printField rfl) .nil)

/-- Members that are printed one by one make a list. -/
theorem isList_printItems {α : Type} {isItem : α → List Char → Prop} {print : α → List Char}
    (h : ∀ a, isItem a (print a)) (depth : Nat) (members : List α) :
    IsList isItem members (printItems '[' ']' depth (members.map print)) := by
  refine ⟨members.map print, ?_, bracketed_printItems ..⟩
  rw [List.forall₂_map_right_iff, List.forall₂_same]
  exact fun a _ => h a

/-- The printed text is an object with the fields of the file. -/
theorem isObject_printChars (file : BoardFile) :
    IsObject FileField.all (fun field => IsField field.name (field.IsValue file))
      file.printChars := by
  have hrow : ∀ row, IsRow row (printRow row) := isList_printItems isCell_printCell 2
  have hcells : IsList IsRow file.cells (printItems '[' ']' 1 (file.cells.map printRow)) :=
    isList_printItems hrow 1 file.cells
  refine ⟨FileField.all, _, .refl _, ?_, bracketed_printItems ..⟩
  exact .cons (isField_printField rfl)
    (.cons (isField_printField rfl) (.cons (isField_printField hcells) .nil))

/-- **The printed text spells the file.** -/
theorem spells_printChars (file : BoardFile) : file.Spells file.printChars :=
  ⟨[], [], _, spaces_nil, spaces_nil, isObject_printChars file, by simp⟩

end Tileboard.BoardFile
