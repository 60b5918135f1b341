import Tileboard.Proofs.PackingsAgree
import Tileboard.Proofs.Reachable

/-!
What becomes of lines when others are added behind them.

The packing is chosen for all lines together, so lines at the end decide on the cells of those before
them as well.

1. **One packing** — in the same packing the cells of the first lines do not depend on what comes
   behind them (`placed_prefix_append`), and a walk that reaches the end of all lines has passed the
   end of the first ones (`isSome_rows?_of_append`).

2. **The choice** — so thread rows that are used for all lines have room for the first ones, and are
   used for these too if there is a marker among them (`usesThreadRows_of_append`).  If there is none,
   both packings give them the same cells.

3. **Tiles** — of the four combinations that leaves one in which tiles can move: thread rows for the
   first lines and dense packing for all (`chosen_prefix_append`, `ofLines_append`).
-/

namespace Tileboard

namespace Layout

variable {size : Size} {packing : Packing} {a b : List Line}

/-! ## One packing -/

/-- The walk over the first lines is the beginning of the walk over all of them.  Induction on the
first lines; the one whose cell is below the board ends both walks. -/
theorem placed_prefix_append_from (size : Size) (packing : Packing) (b : List Line) :
    ∀ (a : List Line) (c : Cursor),
      (ofLinesFrom size packing c a).placed <+: (ofLinesFrom size packing c (a ++ b)).placed := by
  intro a
  induction a with
  | nil => intro c; exact List.nil_prefix
  | cons line rest ih =>
    intro c
    rw [List.cons_append]
    rcases Nat.lt_or_ge (c.settle size packing line).row size.rows with hr | hr
    · rw [ofLinesFrom_cons_of_lt hr, ofLinesFrom_cons_of_lt hr]
      exact (List.prefix_cons_inj _).mpr (ih _)
    · rw [ofLinesFrom_cons_of_ge hr, ofLinesFrom_cons_of_ge hr]

/-- **In one packing, lines keep their cells** whatever is added behind them. -/
theorem placed_prefix_append (size : Size) (packing : Packing) (a b : List Line) :
    (ofLines size packing a).placed <+: (ofLines size packing (a ++ b)).placed :=
  placed_prefix_append_from size packing b a Cursor.start

theorem isSome_rows?_of_append_from (size : Size) (packing : Packing) (b : List Line) :
    ∀ (a : List Line) (c : Cursor), (ofLinesFrom size packing c (a ++ b)).rows?.isSome = true →
      (ofLinesFrom size packing c a).rows?.isSome = true := by
  intro a
  induction a with
  | nil => intro c _; rfl
  | cons line rest ih =>
    intro c h
    rw [List.cons_append] at h
    rcases Nat.lt_or_ge (c.settle size packing line).row size.rows with hr | hr
    · rw [ofLinesFrom_cons_of_lt hr] at h ⊢
      exact ih _ h
    · rw [ofLinesFrom_cons_of_ge hr] at h
      exact absurd h (by decide)

/-- Where there is room for all lines, there is room for the first ones. -/
theorem isSome_rows?_of_append (h : (ofLines size packing (a ++ b)).rows?.isSome = true) :
    (ofLines size packing a).rows?.isSome = true :=
  isSome_rows?_of_append_from size packing b a Cursor.start h

/-! ## The choice of the packing -/

/-- **Thread rows that are used for all lines** are used for the first ones, if there is a marker
among these. -/
theorem usesThreadRows_of_append (hmarker : a.any Line.isMarker = true)
    (h : usesThreadRows size (a ++ b) = true) : usesThreadRows size a = true :=
  usesThreadRows_eq_true_iff.mpr
    ⟨hmarker, isSome_rows?_of_append (usesThreadRows_eq_true_iff.mp h).2⟩

/-- Without a marker, the packings give the same cells. -/
theorem ofLines_eq_dense_of_any_eq_false (h : a.any Line.isMarker = false) :
    ofLines size .threadRows a = ofLines size .dense a := by
  refine (ofLines_eq_dense_iff size a).mpr fun p hp hmarker => ?_
  have hplain : p.1.isMarker = false :=
    eq_false_of_ne_true (List.any_eq_false.mp h p.1 (List.fst_mem_of_mem_zipIdx hp))
  rw [hmarker] at hplain
  nomatch hplain

/-- **Lines keep their cells unless thread rows are given up**, whatever is added behind them. -/
theorem chosen_prefix_append
    (h : ¬ (usesThreadRows size a = true ∧ usesThreadRows size (a ++ b) = false)) :
    (chosen size a).placed <+: (chosen size (a ++ b)).placed := by
  rw [chosen, chosen]
  cases ha : usesThreadRows size a with
  | true =>
    cases hab : usesThreadRows size (a ++ b) with
    | true =>
      rw [choosePacking_of_uses ha, choosePacking_of_uses hab]
      exact placed_prefix_append size .threadRows a b
    | false => exact absurd ⟨ha, hab⟩ h
  | false =>
    cases hab : usesThreadRows size (a ++ b) with
    | true =>
      -- the first lines have no marker, or thread rows would have been used for them
      have hplain : a.any Line.isMarker = false := by
        refine eq_false_of_ne_true fun hmarker => ?_
        rw [usesThreadRows_of_append hmarker hab] at ha
        cases ha
      rw [choosePacking_of_not_uses ha, choosePacking_of_uses hab,
        ← ofLines_eq_dense_of_any_eq_false hplain]
      exact placed_prefix_append size .threadRows a b
    | false =>
      rw [choosePacking_of_not_uses ha, choosePacking_of_not_uses hab]
      exact placed_prefix_append size .dense a b

end Layout

namespace Board

open Layout

variable {size : Size} {a b : List Line}

/-! ## Tiles -/

/-- A board of lines has room for the first of them. -/
theorem exists_ofLines_of_append {board' : Board} (h : ofLines (a ++ b) size = .ok board') :
    ∃ board, ofLines a size = .ok board := by
  have hfit : (a ++ b).length ≤ size.area := exists_ofLines_iff.mp ⟨board', h⟩
  rw [List.length_append] at hfit
  exact ofLines_of_length_le (by omega)

/-- Where the cells of one layout are the first cells of another, the tiles of the board of the one
stand in the same cells of the board of the other. -/
theorem get_of_placed_prefix {lines lines' : List Line} {packing packing' : Packing}
    {board board' : Board} (hboard : pack size packing lines = .ok board)
    (hboard' : pack size packing' lines' = .ok board')
    (hbegins : (Layout.ofLines size packing lines).placed <+:
      (Layout.ofLines size packing' lines').placed)
    {row col : Nat} {token : Token} (h : board.get row col = some token) :
    board'.get row col = some token := by
  have hmem : (⟨row, col, token⟩ : Placement) ∈ board.placements :=
    (mem_placements_iff (wellFormed_of_pack hboard).size_cells).mpr h
  rw [placements_of_pack hboard] at hmem
  have hmem' : (⟨row, col, token⟩ : Placement) ∈ board'.placements := by
    rw [placements_of_pack hboard']
    exact (hbegins.filter _).subset hmem
  exact (mem_placements_iff (wellFormed_of_pack hboard').size_cells).mp hmem'

/-- **Adding lines moves tiles only where thread rows are given up.**  If there is a board of some
lines and others behind them, there is one of the first lines alone.  Then each of these lines has
the same cell in both layouts, and each tile of the first board stands in the same cell of the other,
or thread rows are used for the first lines and not for all.

On any size, if there is a marker among the first lines and thread rows are not used for them, they
are not used for all lines either. -/
theorem ofLines_append (size : Size) (a b : List Line) :
    (∀ board', ofLines (a ++ b) size = .ok board' → ∃ board, ofLines a size = .ok board ∧
      (((chosen size a).placed <+: (chosen size (a ++ b)).placed ∧
          ∀ row col token, board.get row col = some token → board'.get row col = some token) ∨
        usesThreadRows size a = true ∧ usesThreadRows size (a ++ b) = false)) ∧
    ((∃ line ∈ a, line.isMarker = true) → usesThreadRows size a = false →
      usesThreadRows size (a ++ b) = false) := by
  refine ⟨fun board' hboard' => ?_, fun hmarker ha => ?_⟩
  · obtain ⟨board, hboard⟩ := exists_ofLines_of_append hboard'
    refine ⟨board, hboard, ?_⟩
    by_cases hgiven : usesThreadRows size a = true ∧ usesThreadRows size (a ++ b) = false
    · exact Or.inr hgiven
    · have hbegins := chosen_prefix_append hgiven
      exact Or.inl ⟨hbegins, fun row col token => get_of_placed_prefix hboard hboard' hbegins⟩
  · refine eq_false_of_ne_true fun hab => ?_
    rw [usesThreadRows_of_append (List.any_eq_true.mpr hmarker) hab] at ha
    nomatch ha

/-- A marker behind a line that had none before it: thread rows are used from then on, and the line
stays.  Thread rows that one row has no room for are not used for more lines either. -/
theorem ofLines_append_marker :
    (∃ board board',
      ofLines (Script.ofTokens [.plain .play]) ⟨2, 2, by decide, by decide, by decide⟩ =
        .ok board ∧
      ofLines (Script.ofTokens [.plain .play] ++ [.ofToken 2 (.plain .thread2)])
        ⟨2, 2, by decide, by decide, by decide⟩ = .ok board' ∧
      ∀ row col token, board.get row col = some token → board'.get row col = some token) ∧
    usesThreadRows ⟨1, 3, by decide, by decide, by decide⟩
      (Script.ofTokens [.plain .play, .plain .thread2] ++ [.ofToken 3 (.plain .play)]) = false := by
  constructor
  · have hfit : (Script.ofTokens [.plain .play] ++ [Line.ofToken 2 (.plain .thread2)]).length ≤
        Size.area ⟨2, 2, by decide, by decide, by decide⟩ := by decide
    obtain ⟨board', hboard'⟩ := ofLines_of_length_le hfit
    obtain ⟨board, hboard, hkept | ⟨hused, -⟩⟩ := (ofLines_append _ _ _).1 board' hboard'
    · exact ⟨board, board', hboard, hboard', hkept.2⟩
    · exact absurd hused (by decide)
  · exact (ofLines_append _ _ _).2 (by decide) (by decide)

/-- Two lines behind a marker in mid-row: thread rows are given up, and the marker moves. -/
example :
    (chosen ⟨2, 2, by decide, by decide, by decide⟩
        (Script.ofTokens [.plain .play, .plain .thread2])).placed =
      [⟨0, 0, .plain .play⟩, ⟨1, 0, .plain .thread2⟩] ∧
    (chosen ⟨2, 2, by decide, by decide, by decide⟩
        (Script.ofTokens [.plain .play, .plain .thread2, .plain .play, .plain .play])).placed =
      [⟨0, 0, .plain .play⟩, ⟨0, 1, .plain .thread2⟩, ⟨1, 0, .plain .play⟩,
        ⟨1, 1, .plain .play⟩] := by
  decide

end Board

end Tileboard
