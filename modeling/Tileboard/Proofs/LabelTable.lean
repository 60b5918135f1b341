import Tileboard.Disk
import Tileboard.Proofs.BoardViews
import Tileboard.Proofs.CommandParts
import Tileboard.Proofs.TextPieces

/-!
The printed table of labels, and the board that it determines.

In a line of the table every label but the last is filled up with blanks, and the labels hold blanks and
digits themselves.  Still the labels can be told from the line, because each is shorter than its column
and neither starts nor ends with a blank.

1. **Labels** — a label that can stand in a column (`InColumn`); those of the cells of a board are
   (`inColumn_label`), and different cells have different ones (`label_inj`).

2. **A line** — behind the filled columns of some labels comes the line of the others
   (`labelLine_append`), so a line has its labels at the starts of the columns and determines them
   (`labelLine_inj`).

3. **The table** — its lines are those between the line feeds (`lines_flatMap`), so it determines the
   labels (`labels_eq_of_labelTable_eq`).

4. **Headline** — `labels_determine_board`, for the command that prints the table.
-/

namespace Tileboard

namespace Board

/-! ## Labels -/

/-- The label fits into a column with a blank behind it, has no blank at either end, and does not
end its line. -/
structure InColumn (label : String) : Prop where
  length_lt : label.length < columnWidth
  tight : Text.Tight label.toList
  newline_not_mem : '\n' ∉ label.toList

/-- The contents that a cell can have: nothing, or a kind in one of its rotations. -/
def contents : List Cell :=
  none :: Kind.all.flatMap fun kind =>
    (List.range (kind.maxParam + 1)).map fun param => some ⟨kind, param⟩

theorem mem_contents {cell : Cell} (h : accepts cell = true) : cell ∈ contents := by
  cases cell with
  | none => exact List.mem_cons_self ..
  | some token =>
    refine List.mem_cons_of_mem _ (List.mem_flatMap.mpr ⟨token.kind, token.kind.mem_all, ?_⟩)
    have hparam : token.param ≤ token.kind.maxParam := by simpa [accepts, Token.valid] using h
    exact List.mem_map.mpr ⟨token.param, List.mem_range.mpr (Nat.lt_succ_of_le hparam), rfl⟩

/-- The label is short, and its first and last characters are no blanks. -/
def inColumn (label : String) : Bool :=
  label.length < columnWidth && label.toList.head?.any (!Text.isBlank ·) &&
    label.toList.getLast?.any (!Text.isBlank ·) && !label.toList.contains '\n'

theorem InColumn.of_inColumn {label : String} (h : inColumn label = true) : InColumn label := by
  simp only [inColumn, Bool.and_eq_true, decide_eq_true_eq, Option.any_eq_true,
    Bool.not_eq_true', List.contains_eq_mem, decide_eq_false_iff_not] at h
  obtain ⟨⟨⟨hlength, c, hfirst, hc⟩, d, hlast, hd⟩, hnewline⟩ := h
  obtain ⟨rest, hrest⟩ := List.head?_eq_some_iff.mp hfirst
  obtain ⟨init, hinit⟩ := List.getLast?_eq_some_iff.mp hlast
  exact ⟨hlength, ⟨⟨c, rest, hrest, hc⟩, init, d, hinit, hd⟩, hnewline⟩

/-- **The label of a cell stands in a column.** -/
theorem inColumn_label {cell : Cell} (h : accepts cell = true) : InColumn cell.label := by
  have hall : ∀ cell ∈ contents, inColumn cell.label = true := by decide +kernel
  exact .of_inColumn (hall cell (mem_contents h))

/-- **Different cells have different labels.** -/
theorem label_inj {cell cell' : Cell} (h : accepts cell = true) (h' : accepts cell' = true)
    (heq : cell.label = cell'.label) : cell = cell' := by
  have hnodup : (contents.map Cell.label).Nodup := by decide +kernel
  exact List.inj_on_of_nodup_map hnodup (mem_contents h) (mem_contents h') heq

/-! ## A line -/

theorem length_padLabel {label : String} (h : InColumn label) :
    (padLabel label).length = columnWidth := by
  have hlength := h.length_lt
  rw [padLabel, List.length_append, String.length_toList, List.length_replicate]
  omega

theorem length_flatMap_padLabel {labels : List String} (h : ∀ label ∈ labels, InColumn label) :
    (labels.flatMap padLabel).length = columnWidth * labels.length := by
  induction labels with
  | nil => rfl
  | cons label rest ih =>
    rw [List.flatMap_cons, List.length_append, length_padLabel (h label (List.mem_cons_self ..)),
      ih fun other hother => h other (List.mem_cons_of_mem label hother), List.length_cons,
      Nat.mul_succ, Nat.add_comm]

/-- **Filled columns, and the last label as it is.** -/
theorem labelLine_concat (front : List String) {label : String} (h : InColumn label) :
    labelLine (front ++ [label]) = front.flatMap padLabel ++ label.toList := by
  obtain ⟨-, init, c, hlast, hc⟩ := h.tight
  have hblanks : ∀ b ∈ List.replicate (columnWidth - label.length) ' ', Text.isBlank b = true := by
    intro b hb
    rw [List.eq_of_mem_replicate hb]
    decide
  have htrim := Text.trimEnd_append_blanks hblanks hc (front.flatMap padLabel ++ init)
  rw [labelLine, List.flatMap_append, List.flatMap_singleton, padLabel, hlast]
  simpa only [List.append_assoc] using htrim

theorem labelLine_singleton {label : String} (h : InColumn label) :
    labelLine [label] = label.toList :=
  labelLine_concat [] h

/-- **Behind the filled columns of some labels comes the line of the others.** -/
theorem labelLine_append (front : List String) {rest : List String} (hne : rest ≠ [])
    (h : ∀ label ∈ rest, InColumn label) :
    labelLine (front ++ rest) = front.flatMap padLabel ++ labelLine rest := by
  obtain ⟨init, last, rfl⟩ := (List.eq_nil_or_concat' rest).resolve_left hne
  have hlast := h last (by simp)
  rw [← List.append_assoc, labelLine_concat _ hlast, labelLine_concat _ hlast,
    List.flatMap_append, List.append_assoc]

theorem labelLine_cons_of_ne_nil (label : String) {rest : List String} (hne : rest ≠ [])
    (h : ∀ label ∈ rest, InColumn label) :
    labelLine (label :: rest) = padLabel label ++ labelLine rest := by
  have happend := labelLine_append [label] hne h
  rwa [List.flatMap_singleton] at happend

theorem labelLine_ne_nil {labels : List String} (hne : labels ≠ [])
    (h : ∀ label ∈ labels, InColumn label) : labelLine labels ≠ [] := by
  obtain ⟨init, last, rfl⟩ := (List.eq_nil_or_concat' labels).resolve_left hne
  have hlast := h last (by simp)
  rw [labelLine_concat _ hlast]
  exact List.append_ne_nil_of_right_ne_nil _ hlast.tight.ne_nil

theorem newline_not_mem_labelLine {labels : List String} (h : ∀ label ∈ labels, InColumn label) :
    '\n' ∉ labelLine labels := by
  intro hmem
  rw [labelLine, Text.trimEnd_eq_rdropWhile] at hmem
  obtain ⟨label, hlabel, hin⟩ := List.mem_flatMap.mp ((List.rdropWhile_prefix ..).subset hmem)
  rcases List.mem_append.mp hin with hin | hin
  · exact (h label hlabel).newline_not_mem hin
  · exact absurd (List.eq_of_mem_replicate hin) (by decide)

/-- **The line from a column on** is that of the labels from there on. -/
theorem drop_labelLine {labels : List String} (h : ∀ label ∈ labels, InColumn label) {col : Nat}
    (hcol : col < labels.length) :
    (labelLine labels).drop (columnWidth * col) = labelLine (labels.drop col) := by
  have hne : labels.drop col ≠ [] := by simpa using hcol
  have hfront : ((labels.take col).flatMap padLabel).length = columnWidth * col := by
    rw [length_flatMap_padLabel fun label hlabel => h label (List.mem_of_mem_take hlabel),
      List.length_take, Nat.min_eq_left (Nat.le_of_lt hcol)]
  calc (labelLine labels).drop (columnWidth * col)
      = (labelLine (labels.take col ++ labels.drop col)).drop (columnWidth * col) := by
        rw [List.take_append_drop]
    _ = ((labels.take col).flatMap padLabel ++ labelLine (labels.drop col)).drop
          (columnWidth * col) := by
        rw [labelLine_append _ hne fun label hlabel => h label (List.mem_of_mem_drop hlabel)]
    _ = labelLine (labels.drop col) := List.drop_left' hfront

/-- **From the start of a column on**, the line shows the label of the column, and behind it nothing,
or blanks up to the next column. -/
theorem drop_labelLine_eq {labels : List String} (h : ∀ label ∈ labels, InColumn label) {col : Nat}
    (hcol : col < labels.length) :
    (labelLine labels).drop (columnWidth * col) = labels[col].toList ++
      if col + 1 < labels.length then List.replicate (columnWidth - labels[col].length) ' ' ++
        (labelLine labels).drop (columnWidth * (col + 1)) else [] := by
  rw [drop_labelLine h hcol, List.drop_eq_getElem_cons hcol]
  split
  · next hnext =>
    have hne : labels.drop (col + 1) ≠ [] := by simpa using hnext
    rw [drop_labelLine h hnext,
      labelLine_cons_of_ne_nil _ hne fun label hlabel => h label (List.mem_of_mem_drop hlabel),
      padLabel, List.append_assoc]
  · next hlast =>
    rw [List.drop_eq_nil_of_le (Nat.le_of_not_lt hlast),
      labelLine_singleton (h _ (List.getElem_mem hcol)), List.append_nil]

theorem padLabel_inj {label label' : String} (h : InColumn label) (h' : InColumn label')
    (heq : padLabel label = padLabel label') : label = label' := by
  have hline : labelLine [label] = labelLine [label'] := by
    rw [labelLine, labelLine, List.flatMap_singleton, List.flatMap_singleton, heq]
  rw [labelLine_singleton h, labelLine_singleton h'] at hline
  exact String.toList_inj.mp hline

/-- A label that stands alone is shorter than a line with more labels. -/
theorem labelLine_singleton_ne {label other : String} {rest : List String} (h : InColumn label)
    (hne : rest ≠ []) (hrest : ∀ label ∈ other :: rest, InColumn label) :
    labelLine [label] ≠ labelLine (other :: rest) := by
  intro heq
  rw [labelLine_singleton h, labelLine_cons_of_ne_nil other hne fun label hlabel =>
    hrest label (List.mem_cons_of_mem other hlabel)] at heq
  have hlength := congrArg List.length heq
  rw [String.length_toList, List.length_append,
    length_padLabel (hrest other (List.mem_cons_self ..))] at hlength
  have hlt := h.length_lt
  omega

/-- **A line determines its labels.**  Induction on the labels of one line: the first columns of both
lines agree, and so do the lines behind them. -/
theorem labelLine_inj {labels : List String} (h : ∀ label ∈ labels, InColumn label) :
    ∀ {labels' : List String}, (∀ label ∈ labels', InColumn label) →
      labelLine labels = labelLine labels' → labels = labels' := by
  induction labels with
  | nil =>
    intro labels' h' heq
    by_contra hne
    exact labelLine_ne_nil (Ne.symm hne) h' heq.symm
  | cons label rest ih =>
    intro labels' h' heq
    have hlabel := h label (List.mem_cons_self ..)
    have hrest := fun other hother => h other (List.mem_cons_of_mem label hother)
    rcases labels' with _ | ⟨label', rest'⟩
    · exact absurd heq (labelLine_ne_nil (List.cons_ne_nil label rest) h)
    have hlabel' := h' label' (List.mem_cons_self ..)
    have hrest' := fun other hother => h' other (List.mem_cons_of_mem label' hother)
    rcases eq_or_ne rest [] with rfl | hne
    · rcases eq_or_ne rest' [] with rfl | hne'
      · -- both labels stand alone
        rw [labelLine_singleton hlabel, labelLine_singleton hlabel'] at heq
        rw [String.toList_inj.mp heq]
      · exact absurd heq (labelLine_singleton_ne hlabel hne' h')
    · rcases eq_or_ne rest' [] with rfl | hne'
      · exact absurd heq.symm (labelLine_singleton_ne hlabel' hne h)
      · rw [labelLine_cons_of_ne_nil _ hne hrest, labelLine_cons_of_ne_nil _ hne' hrest'] at heq
        obtain ⟨hpad, hline⟩ := List.append_inj heq
          ((length_padLabel hlabel).trans (length_padLabel hlabel').symm)
        rw [padLabel_inj hlabel hlabel' hpad, ih hrest hrest' hline]

/-! ## The table -/

variable {board board' : Board}

/-- What is mapped without loss can be told from the result. -/
theorem eq_of_map_eq {α β : Type} {f : α → β} {P : α → Prop}
    (hf : ∀ a a', P a → P a' → f a = f a' → a = a') {xs : List α} (hxs : ∀ a ∈ xs, P a) :
    ∀ {ys : List α}, (∀ a ∈ ys, P a) → xs.map f = ys.map f → xs = ys := by
  induction xs with
  | nil => exact fun _ heq => (List.map_eq_nil_iff.mp heq.symm).symm
  | cons a xs ih =>
    intro ys hys heq
    rcases ys with _ | ⟨b, ys⟩
    · nomatch heq
    · obtain ⟨hab, hrest⟩ := List.cons.inj heq
      rw [hf a b (hxs a (List.mem_cons_self ..)) (hys b (List.mem_cons_self ..)) hab,
        ih (fun c hc => hxs c (List.mem_cons_of_mem a hc))
          (fun c hc => hys c (List.mem_cons_of_mem b hc)) hrest]

theorem WellFormed.accepts_of_mem_getRow (h : board.WellFormed) {row : Nat} :
    ∀ cell ∈ board.getRow row, accepts cell = true := by
  intro cell hcell
  obtain ⟨col, -, rfl⟩ := List.mem_map.mp hcell
  cases hget : board.get row col with
  | none => rfl
  | some token =>
    have hmem : ⟨row, col, token⟩ ∈ board.placements := (mem_placements_iff h.size_cells).mpr hget
    have htoken : token ∈ board.tokens := by
      rw [← placements_map_token]
      exact List.mem_map_of_mem hmem
    exact h.valid_of_mem_tokens token htoken

/-- **The labels of a row stand in columns.** -/
theorem WellFormed.inColumn_of_mem_labels (h : board.WellFormed) :
    ∀ labels ∈ board.labels, ∀ label ∈ labels, InColumn label := by
  intro labels hlabels label hlabel
  rw [h.labels_eq] at hlabels
  obtain ⟨_, hrow, rfl⟩ := List.mem_map.mp hlabels
  obtain ⟨row, -, rfl⟩ := List.mem_map.mp hrow
  obtain ⟨cell, hcell, rfl⟩ := List.mem_map.mp hlabel
  exact inColumn_label (h.accepts_of_mem_getRow cell hcell)

theorem toList_labelTable (board : Board) :
    board.labelTable.toList = (board.labels.map labelLine).flatMap (· ++ ['\n']) := by
  rw [labelTable, String.toList_ofList, List.flatMap_map]

/-- The lines of the table are those of the rows of labels. -/
theorem WellFormed.lines_labelTable (h : board.WellFormed) :
    Text.lines board.labelTable.toList = board.labels.map labelLine ++ [[]] := by
  rw [toList_labelTable]
  refine Text.lines_flatMap_newline fun line hline => ?_
  obtain ⟨labels, hlabels, rfl⟩ := List.mem_map.mp hline
  exact newline_not_mem_labelLine (h.inColumn_of_mem_labels labels hlabels)

/-- **The table determines the labels.** -/
theorem WellFormed.labels_eq_of_labelTable_eq (h : board.WellFormed) (h' : board'.WellFormed)
    (heq : board.labelTable = board'.labelTable) : board.labels = board'.labels := by
  have hlines : board.labels.map labelLine ++ [[]] = board'.labels.map labelLine ++ [[]] := by
    rw [← h.lines_labelTable, ← h'.lines_labelTable, heq]
  refine eq_of_map_eq (fun _ _ hrow hrow' => ?_) h.inColumn_of_mem_labels h'.inColumn_of_mem_labels
    (List.append_cancel_right hlines)
  exact labelLine_inj hrow hrow'

/-- **The labels determine the cells**, row by row. -/
theorem WellFormed.getRows_eq_of_labels_eq (h : board.WellFormed) (h' : board'.WellFormed)
    (heq : board.labels = board'.labels) : board.getRows = board'.getRows := by
  have haccepts : ∀ {board : Board}, board.WellFormed →
      ∀ row ∈ board.getRows, ∀ cell ∈ row, accepts cell = true := by
    intro board h row hrow
    obtain ⟨r, -, rfl⟩ := List.mem_map.mp hrow
    exact h.accepts_of_mem_getRow
  rw [h.labels_eq, h'.labels_eq] at heq
  refine eq_of_map_eq (fun _ _ hrow hrow' => ?_) (haccepts h) (haccepts h') heq
  exact eq_of_map_eq (fun _ _ => label_inj) hrow hrow'

/-- **The rows of cells determine the board.** -/
theorem WellFormed.eq_of_getRows_eq (h : board.WellFormed) (h' : board'.WellFormed)
    (heq : board.getRows = board'.getRows) : board = board' := by
  have hrows : board.size.rows = board'.size.rows := by
    simpa [getRows] using congrArg List.length heq
  -- there is a row, and its length is the number of columns
  have hrow : ∀ {row}, row < board.size.rows → board.getRow row = board'.getRow row := by
    intro row hrow
    have hget := getElem?_getRows hrow
    rw [heq, getElem?_getRows (hrows ▸ hrow)] at hget
    exact (Option.some.inj hget).symm
  have hcols : board.size.cols = board'.size.cols := by
    simpa [getRow] using congrArg List.length (hrow board.size.rows_pos)
  have hsize : board.size = board'.size := by
    have hmake : Size.make board.size.rows board.size.cols = .ok board'.size :=
      Size.make_eq_ok_iff.mpr ⟨hrows.symm, hcols.symm⟩
    rw [Size.make_rows_cols] at hmake
    exact Except.ok.inj hmake
  refine ext_get h.size_cells h'.size_cells hsize fun row col => ?_
  by_cases hon : row < board.size.rows ∧ col < board.size.cols
  · have hget : (board.getRow row)[col]? = some (board.get row col) := getElem?_getRow hon.2
    rw [hrow hon.1, getElem?_getRow (hcols ▸ hon.2)] at hget
    exact (Option.some.inj hget).symm
  · rw [get_of_not_lt hon, get_of_not_lt (by rwa [← hrows, ← hcols])]

/-! ## Headline -/

/-- The command prints the table of the board in the file. -/
theorem execute_labels {σ : Type} [FileAccess (StateM σ)] {arguments : List String}
    {input text : String} {s s' : σ}
    (hparse : CommandLine.parse arguments = some (.run (.labels input)))
    (hread : (FileAccess.readText input : StateM σ _) s = (.ok text, s'))
    (hload : load text = .ok board) :
    (CommandLine.execute arguments : StateM σ CommandLine.Outcome) s =
      (⟨0, board.labelTable, ""⟩, s') := by
  rw [CommandLine.execute_of_parse hparse, Command.labels_apply, Command.loadBoard_apply, hread]
  simp only [hload]

/-- A line shows its labels, each from the start of its column on. -/
theorem WellFormed.exists_line (h : board.WellFormed) {row col : Nat}
    (hrow : row < board.size.rows) (hcol : col < board.size.cols) : ∃ line label,
      (board.labels.map labelLine)[row]? = some line ∧ label = Cell.label (board.get row col) ∧
      label.length < columnWidth ∧ line.drop (columnWidth * col) = label.toList ++
        if col + 1 < board.size.cols then List.replicate (columnWidth - label.length) ' ' ++
          line.drop (columnWidth * (col + 1)) else [] := by
  have hlabels : board.labels[row]? = some ((board.getRow row).map Cell.label) := by
    rw [h.labels_eq, List.getElem?_map, getElem?_getRows hrow, Option.map_some]
  have hcolumn := h.inColumn_of_mem_labels _ (List.mem_of_getElem? hlabels)
  have hlength : ((board.getRow row).map Cell.label).length = board.size.cols := by simp [getRow]
  have hlt : col < ((board.getRow row).map Cell.label).length := hlength.symm ▸ hcol
  have hlabel : ((board.getRow row).map Cell.label)[col] = Cell.label (board.get row col) := by
    simp [getRow]
  have hdrop := drop_labelLine_eq hcolumn hlt
  rw [hlabel, hlength] at hdrop
  refine ⟨_, _, ?_, rfl, hlabel ▸ (hcolumn _ (List.getElem_mem hlt)).length_lt, hdrop⟩
  rw [List.getElem?_map, hlabels, Option.map_some]

/-- **The printed table determines the board.**  For every board that can be reached:

* the command that prints labels prints the table of the board, if its input is a file of the board;
* the table has one line for each row, none of them empty; the label of a cell starts at 14 times the
  number of its column, and behind it stand one blank or more up to the next column, and nothing
  behind the label of the last column;
* no other board that can be reached, of whatever size, has the same table. -/
theorem labels_determine_board (h : Reachable board) :
    (∀ {σ : Type} [FileAccess (StateM σ)] {arguments : List String} {input text : String} {s s' : σ},
      CommandLine.parse arguments = some (.run (.labels input)) →
      (FileAccess.readText input : StateM σ _) s = (.ok text, s') → load text = .ok board →
      (CommandLine.execute arguments : StateM σ CommandLine.Outcome) s =
        (⟨0, board.labelTable, ""⟩, s')) ∧
    (∃ lines : List (List Char), board.labelTable.toList = lines.flatMap (· ++ ['\n']) ∧
      lines.length = board.size.rows ∧ (∀ line ∈ lines, line ≠ [] ∧ '\n' ∉ line) ∧
      ∀ row col, row < board.size.rows → col < board.size.cols → ∃ line label,
        lines[row]? = some line ∧ label = Cell.label (board.get row col) ∧ label.length < 14 ∧
        line.drop (14 * col) = label.toList ++
          if col + 1 < board.size.cols then List.replicate (14 - label.length) ' ' ++
            line.drop (14 * (col + 1)) else []) ∧
    ∀ other, Reachable other → other.labelTable = board.labelTable → other = board := by
  have hwf := h.wellFormed
  refine ⟨execute_labels, ⟨board.labels.map labelLine, toList_labelTable board, ?_, ?_,
    fun row col => hwf.exists_line⟩, fun other hother heq => ?_⟩
  · rw [List.length_map, hwf.labels_eq, List.length_map, getRows, List.length_map, List.length_range]
  · intro line hline
    obtain ⟨labels, hlabels, rfl⟩ := List.mem_map.mp hline
    have hcolumn := hwf.inColumn_of_mem_labels labels hlabels
    refine ⟨labelLine_ne_nil ?_ hcolumn, newline_not_mem_labelLine hcolumn⟩
    -- a row has at least one column
    rw [hwf.labels_eq] at hlabels
    obtain ⟨_, hrow, rfl⟩ := List.mem_map.mp hlabels
    obtain ⟨row, -, rfl⟩ := List.mem_map.mp hrow
    simpa [getRow] using Nat.ne_of_gt board.size.cols_pos
  · have hlabels := hother.wellFormed.labels_eq_of_labelTable_eq hwf heq
    exact hother.wellFormed.eq_of_getRows_eq hwf (hother.wellFormed.getRows_eq_of_labels_eq hwf hlabels)

/-- On a disk, a file with one row of two cells, the second of them empty: its table is printed, has the
dot at the start of the second column, and is that of no other board. -/
theorem labels_determine_board_one_row :
    let text := "\x7b\"rows\":1,\"cols\":2,\"cells\":[[\x7b\"kind\":\"if\",\"param\":4\x7d,null]]\x7d"
    let disk : Disk := ⟨[(["w"], .folder), (["w", "b"], .file text.toUTF8)], ["w"]⟩
    ∃ board, board = (empty ⟨1, 2, by decide, by decide, by decide⟩).perform
        (.set 0 0 (some ⟨.ifBelow, 4⟩)) ∧
      (CommandLine.execute ["labels", "b"] : StateM Disk CommandLine.Outcome) disk =
        (⟨0, "If X < 5      .\n", ""⟩, disk) ∧
      (∃ lines : List (List Char), board.labelTable.toList = lines.flatMap (· ++ ['\n']) ∧
        ∃ line, lines[0]? = some line ∧ line.drop (14 * 1) = ['.']) ∧
      ∀ other, Reachable other → other.labelTable = "If X < 5      .\n" → other = board := by
  intro text disk
  have hreach := (Reachable.empty ⟨1, 2, by decide, by decide, by decide⟩).perform
    (.set 0 0 (some ⟨.ifBelow, 4⟩))
  obtain ⟨hprint, ⟨lines, htable, -, -, hline⟩, hunique⟩ := labels_determine_board hreach
  have hparse : CommandLine.parse ["labels", "b"] = some (.run (.labels "b")) := by decide +kernel
  have htext : disk.readText "b" = .ok text := by decide +kernel
  have hread : (FileAccess.readText "b" : StateM Disk _) disk = (disk.readText "b", disk) := rfl
  rw [htext] at hread
  have hshown : ((empty ⟨1, 2, by decide, by decide, by decide⟩).perform
      (.set 0 0 (some ⟨.ifBelow, 4⟩))).labelTable = "If X < 5      .\n" := by decide +kernel
  refine ⟨_, rfl, ?_, ⟨lines, htable, ?_⟩, hshown ▸ hunique⟩
  · rw [hprint hparse hread (by decide +kernel), hshown]
  · obtain ⟨line, label, hmem, rfl, -, hdrop⟩ := hline 0 1 (by decide) (by decide)
    exact ⟨line, hmem, hdrop⟩

end Board

end Tileboard
