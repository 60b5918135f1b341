import Tileboard.Proofs.BlockRows
import Tileboard.Proofs.Regroup

/-!
Grouping tiles by lane keeps the packing and the rows.

Grouping moves whole blocks: a marker and the tiles up to the next one belong to one lane, and the
tiles before the first marker belong to the first lane, where they stay in front.

1. **Blocks of the lanes** — the blocks of the lanes, one lane after the other, are those of the
   sequence in another order (`headed_lanes_perm`), and only the first lane has tiles in front of
   its first marker (`lead_lane`, `lead_lane_of_ne`).  Both follow the walk, one tile at a time.

2. **Rows** — the rows of a layout are a sum over its blocks, which does not depend on their order,
   so grouping keeps them (`rows?_flatten`), and with them the choice of the packing
   (`usesThreadRows_flatten`).

3. **Boards** — a board that a script makes and the board of its own script are packed in the same
   way and take the same rows (`regroup_keeps_layout`).
-/

namespace Tileboard

/-- Whether the tile is a marker. -/
def Token.isMarker (token : Token) : Bool :=
  token.kind.isMarker

/-! ## Blocks of the lanes -/

namespace Lanes

open Blocks

/-- The blocks that markers open, lane by lane. -/
def headedBlocks (lanes : Lanes Token) : Lanes (List Token) :=
  ⟨headed Token.isMarker lanes.first, headed Token.isMarker lanes.second,
    headed Token.isMarker lanes.third⟩

theorem headedBlocks_cons_of_not {lane : Lane} {token : Token} {lanes : Lanes Token}
    (h : token.isMarker = false) :
    (lanes.cons lane token).headedBlocks = lanes.headedBlocks := by
  cases lane <;> simp only [headedBlocks, cons, headed_cons_of_not h]

theorem headedBlocks_cons_of_opens {lane : Lane} {token : Token} {lanes : Lanes Token}
    (h : token.isMarker = true) :
    (lanes.cons lane token).headedBlocks =
      lanes.headedBlocks.cons lane (token :: lead Token.isMarker (lanes.get lane)) := by
  cases lane <;> simp only [headedBlocks, cons, headed_cons_of_opens h] <;> rfl

/-- No lane but the one in which the walk starts has tiles in front of its first marker. -/
theorem lead_lane_of_ne {start lane : Lane} (hne : lane ≠ start) (tokens : List Token) :
    lead Token.isMarker ((ofTokensFrom start tokens).get lane) = [] := by
  induction tokens generalizing start with
  | nil => rw [ofTokensFrom, get_empty]; rfl
  | cons token rest ih =>
    rw [ofTokensFrom]
    by_cases hlane : lane = token.kind.lane?.getD start
    · -- the tile is a marker, or its lane would be the old one
      have hmarker : token.isMarker = true := by
        rw [Token.isMarker, Kind.isMarker]
        cases hk : token.kind.lane? with
        | none => rw [hk] at hlane; exact absurd hlane hne
        | some own => rfl
      subst hlane
      rw [get_cons_self, lead_cons_of_opens hmarker]
    · rw [get_cons_of_ne hlane]
      exact ih hlane

/-- The lane in which the walk starts has the tiles in front of the first marker. -/
theorem lead_lane (start : Lane) (tokens : List Token) :
    lead Token.isMarker ((ofTokensFrom start tokens).get start) =
      lead Token.isMarker tokens := by
  induction tokens with
  | nil => rw [ofTokensFrom, get_empty]
  | cons token rest ih =>
    cases hk : token.kind.lane? with
    | none =>
      have hmarker : token.isMarker = false := by rw [Token.isMarker, Kind.isMarker, hk]; rfl
      rw [ofTokensFrom, hk, lead_cons_of_not hmarker]
      show lead _ ((cons start token (ofTokensFrom start rest)).get start) = _
      rw [get_cons_self, lead_cons_of_not hmarker, ih]
    | some own =>
      have hmarker : token.isMarker = true := by rw [Token.isMarker, Kind.isMarker, hk]; rfl
      rw [lead_cons_of_opens hmarker]
      by_cases hown : start = own
      · subst hown
        rw [ofTokensFrom, hk]
        show lead _ ((cons start token (ofTokensFrom start rest)).get start) = _
        rw [get_cons_self, lead_cons_of_opens hmarker]
      · rw [ofTokensFrom, hk]
        show lead _ ((cons own token (ofTokensFrom own rest)).get start) = _
        rw [get_cons_of_ne hown, lead_lane_of_ne hown]

/-- **The blocks of the lanes are those of the sequence**, in another order. -/
theorem headed_lanes_perm (start : Lane) (tokens : List Token) :
    (ofTokensFrom start tokens).headedBlocks.flatten.Perm (headed Token.isMarker tokens) := by
  induction tokens generalizing start with
  | nil => exact List.Perm.refl _
  | cons token rest ih =>
    rw [ofTokensFrom]
    cases hmarker : token.isMarker with
    | false =>
      rw [headedBlocks_cons_of_not hmarker, headed_cons_of_not hmarker]
      exact ih _
    | true =>
      -- the tile's lane is its own, and what follows it there is what follows it in the sequence
      rw [headedBlocks_cons_of_opens hmarker, headed_cons_of_opens hmarker, lead_lane]
      exact (flatten_cons_perm _ _ _).trans ((ih _).cons _)

/-- **Grouping by lane permutes the blocks**; the tiles in front of the first marker stay there. -/
theorem cut_flatten_perm (tokens : List Token) :
    (cut Token.isMarker (ofTokens tokens).flatten).Perm (cut Token.isMarker tokens) := by
  have hsecond : lead Token.isMarker (ofTokens tokens).second = [] :=
    lead_lane_of_ne (show Lane.second ≠ .first by decide) tokens
  have hthird : lead Token.isMarker (ofTokens tokens).third = [] :=
    lead_lane_of_ne (show Lane.third ≠ .first by decide) tokens
  have hlead : lead Token.isMarker (ofTokens tokens).flatten = lead Token.isMarker tokens := by
    rw [flatten, lead_append hthird, lead_append hsecond]
    exact lead_lane .first tokens
  have hheaded : headed Token.isMarker (ofTokens tokens).flatten =
      (ofTokens tokens).headedBlocks.flatten := by
    rw [flatten, headed_append hthird, headed_append hsecond]
    rfl
  rw [cut, cut, hlead, hheaded]
  exact (headed_lanes_perm .first tokens).cons _

end Lanes

namespace Script

open Blocks

/-- The lines of a sequence of tiles fall into blocks as the tiles do. -/
theorem lengths_cut_ofTokens (tokens : List Token) :
    (cut (Line.opens .threadRows) (ofTokens tokens)).map List.length =
      (cut Token.isMarker tokens).map List.length := by
  suffices h : ∀ number, (lead (Line.opens .threadRows) (linesFrom number tokens)).length =
        (lead Token.isMarker tokens).length ∧
      (headed (Line.opens .threadRows) (linesFrom number tokens)).map List.length =
        (headed Token.isMarker tokens).map List.length by
    rw [cut, cut, List.map_cons, List.map_cons, ofTokens, (h 1).1, (h 1).2]
  induction tokens with
  | nil => intro number; exact ⟨rfl, rfl⟩
  | cons token rest ih =>
    intro number
    obtain ⟨hlead, hheaded⟩ := ih (number + 1)
    have hline : (Line.ofToken number token).opens .threadRows = token.isMarker := rfl
    rw [linesFrom]
    cases hmarker : token.isMarker with
    | false =>
      rw [hmarker] at hline
      rw [lead_cons_of_not hline, lead_cons_of_not hmarker, headed_cons_of_not hline,
        headed_cons_of_not hmarker, List.length_cons, List.length_cons, hlead]
      exact ⟨rfl, hheaded⟩
    | true =>
      rw [hmarker] at hline
      rw [lead_cons_of_opens hline, lead_cons_of_opens hmarker, headed_cons_of_opens hline,
        headed_cons_of_opens hmarker, List.map_cons, List.map_cons, List.length_cons,
        List.length_cons, hlead, hheaded]
      exact ⟨rfl, rfl⟩

end Script

namespace Layout

/-! ## Rows and the choice of the packing -/

/-- **Grouping by lane keeps the rows**, in either packing. -/
theorem rows?_flatten (size : Size) (packing : Packing) (tokens : List Token) :
    (ofLines size packing (Script.ofTokens (Lanes.ofTokens tokens).flatten)).rows? =
      (ofLines size packing (Script.ofTokens tokens)).rows? := by
  cases packing with
  | dense =>
    rw [rows?_ofLines_dense, rows?_ofLines_dense, Script.length_ofTokens, Script.length_ofTokens,
      (Lanes.flatten_perm tokens).length_eq]
  | threadRows =>
    rw [rows?_ofLines, rows?_ofLines, size.rowsOf_eq_of_lengths (Script.lengths_cut_ofTokens _),
      size.rowsOf_eq_of_lengths (Script.lengths_cut_ofTokens tokens),
      size.rowsOf_eq_of_perm (Lanes.cut_flatten_perm tokens)]

theorem any_isMarker_ofTokens (tokens : List Token) :
    (Script.ofTokens tokens).any Line.isMarker = tokens.any Token.isMarker := by
  suffices h : ∀ number, (Script.linesFrom number tokens).any Line.isMarker =
      tokens.any Token.isMarker from h 1
  induction tokens with
  | nil => intro number; rfl
  | cons token rest ih =>
    intro number
    rw [Script.linesFrom, List.any_cons, List.any_cons, ih]
    rfl

/-- **Grouping by lane keeps the choice of the packing.** -/
theorem usesThreadRows_flatten (size : Size) (tokens : List Token) :
    usesThreadRows size (Script.ofTokens (Lanes.ofTokens tokens).flatten) =
      usesThreadRows size (Script.ofTokens tokens) := by
  have hperm := Lanes.flatten_perm tokens
  have hany : (Lanes.ofTokens tokens).flatten.any Token.isMarker = tokens.any Token.isMarker :=
    hperm.any_eq
  rw [usesThreadRows, usesThreadRows, wantsThreadRows, wantsThreadRows, any_isMarker_ofTokens,
    any_isMarker_ofTokens, hany, Script.length_ofTokens, Script.length_ofTokens, hperm.length_eq,
    rows?_flatten]

end Layout

namespace Board

open Layout

variable {board : Board} {size : Size}

/-! ## Boards -/

/-- The board is made of its own tiles, in the packing that is chosen for them, and they take so
many rows. -/
structure PackedAs (board : Board) (packing : Packing) (rows : Nat) : Prop where
  choice : choosePacking board.size (Script.ofTokens board.tokens) = packing
  packed : pack board.size packing (Script.ofTokens board.tokens) = .ok board
  rows_eq : (Layout.ofLines board.size packing (Script.ofTokens board.tokens)).rows? = some rows

theorem choosePacking_flatten (size : Size) (tokens : List Token) :
    choosePacking size (Script.ofTokens (Lanes.ofTokens tokens).flatten) =
      choosePacking size (Script.ofTokens tokens) := by
  rw [choosePacking, choosePacking, usesThreadRows_flatten]

theorem rows?_chosen_flatten (size : Size) (tokens : List Token) :
    (chosen size (Script.ofTokens (Lanes.ofTokens tokens).flatten)).rows? =
      (chosen size (Script.ofTokens tokens)).rows? := by
  rw [chosen, chosen, choosePacking_flatten, rows?_flatten]

theorem exists_packedAs (h : ofTokens board.tokens size = .ok board) :
    ∃ packing rows, board.PackedAs packing rows := by
  have hsize : board.size = size := size_of_pack h
  subst hsize
  obtain ⟨rows, hrows⟩ := Option.isSome_iff_exists.mp (pack_eq_ok_iff.mp h).1
  exact ⟨_, rows, rfl, h, hrows⟩

/-- A board of the tiles of another, grouped by lane, is packed as that one is. -/
theorem PackedAs.of_grouped {board' : Board} {packing : Packing} {rows : Nat}
    (h : board.PackedAs packing rows) (htokens : board'.tokens = board.lanes.flatten)
    (h' : ofTokens board'.tokens board.size = .ok board') : board'.PackedAs packing rows := by
  have hsize : board'.size = board.size := size_of_pack h'
  have hchoice : choosePacking board.size (Script.ofTokens board'.tokens) = packing := by
    rw [htokens, lanes, choosePacking_flatten]
    exact h.choice
  refine ⟨by rw [hsize, hchoice], ?_, ?_⟩
  · rw [hsize, ← hchoice]
    exact h'
  · rw [hsize, htokens, lanes, rows?_flatten]
    exact h.rows_eq

/-- **Grouping by lane keeps the packing and the rows.**

* For every sequence of tiles, valid or not, and every size: grouped by lane, the tiles take the same
  rows in either packing, or do not fit as before, and thread rows are used for both or for neither.
* So the lines of a board's own script are laid out as its tiles are, in the same packing and in as
  many rows.  Without tiles there are no lines; otherwise they make the board of that script.
* A board that a script makes is packed in this way, and the board of its own script is packed in the
  same way and takes the same rows. -/
theorem regroup_keeps_layout :
    (∀ size packing tokens,
      (Layout.ofLines size packing (Script.ofTokens (Lanes.ofTokens tokens).flatten)).rows? =
        (Layout.ofLines size packing (Script.ofTokens tokens)).rows?) ∧
    (∀ size tokens, usesThreadRows size (Script.ofTokens (Lanes.ofTokens tokens).flatten) =
      usesThreadRows size (Script.ofTokens tokens)) ∧
    (∀ board, Reachable board → ∃ lines, Script.read board.scripts.flatText = .ok lines ∧
      choosePacking board.size lines = choosePacking board.size (Script.ofTokens board.tokens) ∧
      (chosen board.size lines).rows? =
        (chosen board.size (Script.ofTokens board.tokens)).rows? ∧
      (board.tokens ≠ [] → board.regroup = ofLines lines board.size)) ∧
    (∀ script size board, ofScript script size = .ok board →
      ∃ board' packing rows, board.regroup = .ok board' ∧
        board.PackedAs packing rows ∧ board'.PackedAs packing rows) := by
  refine ⟨rows?_flatten, usesThreadRows_flatten, ?_, ?_⟩
  · intro board hreach
    have hvalid := hreach.wellFormed.valid_of_mem_tokens
    refine ⟨Script.ofTokens board.lanes.flatten, ?_, choosePacking_flatten _ _,
      rows?_chosen_flatten _ _, fun hne => ofScript_flatText hvalid hne board.size⟩
    rw [flatText_scripts]
    exact Script.read_joinLines_text fun token htoken =>
      hvalid token (board.lanes_flatten_perm.subset htoken)
  · intro script size board h
    obtain ⟨hsame, hne, hvalid⟩ := ofTokens_tokens_of_ofScript h
    obtain ⟨packing, rows, hpacked⟩ := exists_packedAs hsame
    have hsize : board.size = size := size_of_pack hsame
    subst hsize
    have hfit : board.tokens.length ≤ board.size.area := by
      rw [← Script.length_ofTokens]
      exact exists_ofLines_iff.mp ⟨board, hsame⟩
    obtain ⟨board', hscript, -, htokens⟩ := exists_regrouped hvalid hne hfit
    -- the new board is that of a script too, so it is made of its own tiles
    obtain ⟨hsame', -, -⟩ := ofTokens_tokens_of_ofScript hscript
    exact ⟨board', packing, rows, hscript, hpacked, hpacked.of_grouped htokens hsame'⟩

/-- Two markers out of order on a board of two rows, one for each; and a board that was edited, with
an empty cell in front of its tile. -/
theorem regroup_keeps_layout_two_markers :
    (∃ board board' packing rows,
      ofScript "thread 2\nplay 1\nthread 1" ⟨2, 2, by decide, by decide, by decide⟩ = .ok board ∧
      board.regroup = .ok board' ∧ board.PackedAs packing rows ∧ board'.PackedAs packing rows) ∧
    ∃ lines, Script.read ((empty .compact).set 2 1 (some (.plain .thread2))).scripts.flatText =
        .ok lines ∧
      ((empty .compact).set 2 1 (some (.plain .thread2))).regroup = ofLines lines .compact := by
  constructor
  · have hread : Script.read "thread 2\nplay 1\nthread 1" =
        .ok (Script.ofTokens [.plain .thread2, .plain .play, .plain .thread1]) := by decide +kernel
    have hfit : (Script.ofTokens [.plain .thread2, .plain .play, .plain .thread1]).length ≤
        Size.area ⟨2, 2, by decide, by decide, by decide⟩ := by decide
    obtain ⟨board, hboard⟩ := ofLines_of_length_le hfit
    have hscript := (ofScript_of_read (by decide +kernel) hread).trans hboard
    obtain ⟨board', packing, rows, h⟩ := regroup_keeps_layout.2.2.2 _ _ _ hscript
    exact ⟨board, board', packing, rows, hscript, h⟩
  · have hreach := (Reachable.empty .compact).perform (.set 2 1 (some (.plain .thread2)))
    obtain ⟨lines, hread, -, -, hregroup⟩ := regroup_keeps_layout.2.2.1 _ hreach
    exact ⟨lines, hread, hregroup (by decide)⟩

end Board

end Tileboard
