import Tileboard.Proofs.Regroup

/-!
The three scripts of a board, one for each thread.

Writing a board walks over its tiles and carries the thread of the last marker along, over rows,
holes and markers out of order.  Here the scripts are said by cells, without the walk, and each is
shown to be a program of its own.

1. **Specification** — `NearestLane` is the thread of the nearest marker at or before a cell, and of
   the first thread if there is none.  It speaks of rows and columns and of no order of listing;
   `laneAt` computes it from the list of the tiles (`nearestLane_iff`).

2. **By cells** — the tiles are listed in reading order, so those at or before a tile are the ones
   that are listed up to it (`filter_upTo`), and the walk gives each tile the thread of its cell
   (`sequence_tokens`).

3. **By threads** — a marker among the tiles of a thread is the thread's own, and one comes first if
   the thread is not the first (`lane_of_mem_within`, `lane_of_head_within`).  So the tiles of a
   thread, walked by themselves, stay in their thread (`ofTokens_within`).

4. **Headlines** — `scripts_by_nearest_marker` for what the scripts hold: the tiles of the cells of
   each thread, in reading order, all tiles together, and read back as these tiles; and
   `lane_text_alone` for the board that one of them makes.
-/

namespace Tileboard

/-! ## Specification -/

/-- The tile stands at or before the cell in reading order. -/
def Placement.UpTo (row col : Nat) (p : Placement) : Prop :=
  p.row < row ∨ p.row = row ∧ p.col ≤ col

instance (row col : Nat) (p : Placement) : Decidable (p.UpTo row col) :=
  inferInstanceAs (Decidable (p.row < row ∨ p.row = row ∧ p.col ≤ col))

namespace Board

/-- The thread of the nearest marker at or before the cell, the first thread if there is none. -/
inductive NearestLane (board : Board) (row col : Nat) : Lane → Prop
  | marker {m : Placement} {lane : Lane} (hm : m ∈ board.placements)
      (hlane : m.token.kind.lane? = some lane) (hle : m.UpTo row col)
      (hnearest : ∀ m' ∈ board.placements, m'.token.kind.isMarker = true → m'.UpTo row col →
        m'.UpTo m.row m.col) : NearestLane board row col lane
  | start (hnone : ∀ m ∈ board.placements, m.UpTo row col → m.token.kind.isMarker = false) :
      NearestLane board row col .first

/-- The thread of a cell: that of the last marker among the tiles up to it. -/
def laneAt (board : Board) (row col : Nat) : Lane :=
  ((board.placements.filter (·.UpTo row col)).filterMap (·.token.kind.lane?)).getLast?.getD .first

/-- The tiles of a thread with their places, in reading order. -/
def inLane (board : Board) (lane : Lane) : List Placement :=
  board.placements.filter fun p => board.laneAt p.row p.col = lane

end Board

/-! ## By cells -/

/-- The last member of an increasing list for which there is something is the greatest of these. -/
theorem getLast?_filterMap_eq_some_iff {α β : Type} {key : α → Nat} {xs : List α}
    (h : xs.Pairwise fun a b => key a < key b) (f : α → Option β) (b : β) :
    (xs.filterMap f).getLast? = some b ↔
      ∃ m ∈ xs, f m = some b ∧ ∀ m' ∈ xs, (f m').isSome = true → key m' ≤ key m := by
  induction xs using List.reverseRecOn with
  | nil => simp
  | append_singleton front last ih =>
    obtain ⟨hfront, -, hlast⟩ := List.pairwise_append.mp h
    have hbelow : ∀ a ∈ front, key a < key last := fun a ha => hlast a ha last (by simp)
    cases hf : f last with
    | none =>
      rw [List.filterMap_append, List.filterMap_cons_none hf, List.filterMap_nil, List.append_nil,
        ih hfront]
      constructor
      · rintro ⟨m, hm, hb, hmax⟩
        refine ⟨m, List.mem_append_left _ hm, hb, fun m' hm' hsome => ?_⟩
        rcases List.mem_append.mp hm' with hm' | hm'
        · exact hmax m' hm' hsome
        · rw [List.mem_singleton.mp hm', hf] at hsome
          exact absurd hsome Bool.false_ne_true
      · rintro ⟨m, hm, hb, hmax⟩
        rcases List.mem_append.mp hm with hm | hm
        · exact ⟨m, hm, hb, fun m' hm' => hmax m' (List.mem_append_left _ hm')⟩
        · rw [List.mem_singleton.mp hm, hf] at hb
          cases hb
    | some c =>
      rw [List.filterMap_append, List.filterMap_cons_some hf, List.filterMap_nil,
        List.getLast?_concat]
      constructor
      · intro hc
        refine ⟨last, by simp, hf.trans hc, fun m' hm' _ => ?_⟩
        rcases List.mem_append.mp hm' with hm' | hm'
        · exact Nat.le_of_lt (hbelow m' hm')
        · rw [List.mem_singleton.mp hm']
      · rintro ⟨m, hm, hb, hmax⟩
        rcases List.mem_append.mp hm with hm | hm
        · -- the last one is greater than all before it
          have hle := hmax last (by simp) (by rw [hf]; rfl)
          exact absurd (hbelow m hm) (Nat.not_lt.mpr hle)
        · rw [List.mem_singleton.mp hm, hf] at hb
          exact hb

/-- In an increasing list, the members up to one of them are those that are listed up to it. -/
theorem filter_le_getElem {α : Type} {key : α → Nat} {xs : List α}
    (h : xs.Pairwise fun a b => key a < key b) {i : Nat} (hi : i < xs.length) :
    xs.filter (fun a => key a ≤ key xs[i]) = xs.take (i + 1) := by
  have hbelow : ∀ j k (hj : j < xs.length) (hk : k < xs.length), j < k → key xs[j] < key xs[k] :=
    List.pairwise_iff_getElem.mp h
  have htake : (xs.take (i + 1)).filter (fun a => key a ≤ key xs[i]) = xs.take (i + 1) := by
    refine List.filter_eq_self.mpr fun a ha => decide_eq_true ?_
    obtain ⟨j, hj, rfl⟩ := List.mem_take_iff_getElem.mp ha
    rcases Nat.lt_or_eq_of_le (show j ≤ i by omega) with hlt | rfl
    · exact Nat.le_of_lt (hbelow j i (by omega) hi hlt)
    · exact Nat.le_refl _
  have hdrop : (xs.drop (i + 1)).filter (fun a => key a ≤ key xs[i]) = [] := by
    refine List.filter_eq_nil_iff.mpr fun a ha => ?_
    obtain ⟨j, hj, rfl⟩ := List.mem_drop_iff_getElem.mp ha
    rw [decide_eq_true_eq, Nat.not_le]
    exact hbelow i _ hi _ (by omega)
  calc xs.filter (fun a => key a ≤ key xs[i])
      = (xs.take (i + 1) ++ xs.drop (i + 1)).filter (fun a => key a ≤ key xs[i]) := by
        rw [List.take_append_drop]
    _ = xs.take (i + 1) := by rw [List.filter_append, htake, hdrop, List.append_nil]

namespace Board

variable {board : Board}

/-- On the board, a tile stands up to a cell exactly if its number is not greater. -/
theorem upTo_iff {size : Size} {p : Placement} {row col : Nat} (hp : p.col < size.cols)
    (hcol : col < size.cols) : p.UpTo row col ↔ p.index size ≤ size.index row col := by
  have hrows : ∀ {r r' : Nat}, r < r' → r * size.cols + size.cols ≤ r' * size.cols := by
    intro r r' h
    rw [← Nat.succ_mul]
    exact Nat.mul_le_mul_right size.cols h
  rw [Placement.UpTo, Placement.index, Size.index, Size.index]
  rcases Nat.lt_trichotomy p.row row with hlt | heq | hgt
  · have := hrows hlt
    omega
  · rw [heq]
    omega
  · have := hrows hgt
    omega

/-- **The tiles up to a tile are those that are listed up to it.** -/
theorem filter_upTo (h : board.WellFormed) {i : Nat} (hi : i < board.placements.length) :
    board.placements.filter (·.UpTo board.placements[i].row board.placements[i].col) =
      board.placements.take (i + 1) := by
  have horderly := orderly_placements h.size_cells
  rw [← filter_le_getElem horderly.increasing hi]
  refine List.filter_congr fun p hp => decide_eq_decide.mpr ?_
  exact upTo_iff (horderly.on p hp).2 (horderly.on _ (List.getElem_mem hi)).2

/-- **The walk gives each tile the thread of its cell.** -/
theorem sequence_tokens (h : board.WellFormed) : Lanes.sequence board.tokens =
    board.placements.map fun p => board.laneAt p.row p.col := by
  rw [← placements_map_token]
  refine List.ext_getElem (by simp [Lanes.sequence]) fun i hi hi' => ?_
  have hlt : i < board.placements.length := by simpa using hi'
  rw [List.getElem_map, laneAt, filter_upTo h hlt]
  simp only [Lanes.sequence, List.getElem_map, List.getElem_range, Lanes.nearest, ← List.map_take,
    List.filterMap_map]
  rfl

/-- **The tiles of a thread are those whose nearest marker is of the thread.** -/
theorem within_tokens (h : board.WellFormed) (lane : Lane) :
    Lanes.within lane board.tokens = (board.inLane lane).map (·.token) := by
  rw [Lanes.within, sequence_tokens h, ← placements_map_token, List.zip_map', List.filter_map,
    List.map_map, inLane]
  rfl

theorem get_scripts (board : Board) (lane : Lane) :
    board.scripts.get lane = (Lanes.within lane board.tokens).map Token.text := by
  rw [scripts, Lanes.get_map, lanes, Lanes.get_ofTokens]

/-- **The script of a thread is written for the tiles in the cells of the thread.** -/
theorem get_scripts_inLane (h : board.WellFormed) (lane : Lane) :
    board.scripts.get lane = (board.inLane lane).map (·.token.text) := by
  rw [get_scripts, within_tokens h, List.map_map]
  rfl

/-- **The thread of a cell is that of the nearest marker**, and every cell has one thread only. -/
theorem nearestLane_iff (h : board.WellFormed) {row col : Nat} {lane : Lane} :
    board.NearestLane row col lane ↔ board.laneAt row col = lane := by
  have horderly := orderly_placements h.size_cells
  have hlast := getLast?_filterMap_eq_some_iff (horderly.increasing.filter (·.UpTo row col))
    (·.token.kind.lane?)
  have hbefore : ∀ m ∈ board.placements, ∀ m' ∈ board.placements,
      m'.UpTo m.row m.col ↔ m'.index board.size ≤ m.index board.size :=
    fun m hm m' hm' => upTo_iff (horderly.on m' hm').2 (horderly.on m hm).2
  constructor
  · intro hlane
    cases hlane with
    | @marker m lane hm hlane hle hnearest =>
      have hsome := (hlast lane).mpr ⟨m, List.mem_filter.mpr ⟨hm, decide_eq_true hle⟩, hlane, by
        intro m' hm' hmarker
        obtain ⟨hmem, hupTo⟩ := List.mem_filter.mp hm'
        exact (hbefore m hm m' hmem).mp (hnearest m' hmem hmarker (of_decide_eq_true hupTo))⟩
      rw [laneAt, hsome]
      rfl
    | start hnone =>
      have hnil :
          (board.placements.filter (·.UpTo row col)).filterMap (·.token.kind.lane?) = [] := by
        refine List.filterMap_eq_nil_iff.mpr fun m hm => ?_
        obtain ⟨hmem, hupTo⟩ := List.mem_filter.mp hm
        exact Option.not_isSome_iff_eq_none.mp
          (Bool.eq_false_iff.mp (hnone m hmem (of_decide_eq_true hupTo)))
      rw [laneAt, hnil]
      rfl
  · rintro rfl
    rw [laneAt]
    cases hcase : ((board.placements.filter (·.UpTo row col)).filterMap
        (·.token.kind.lane?)).getLast? with
    | none =>
      rw [List.getLast?_eq_none_iff, List.filterMap_eq_nil_iff] at hcase
      refine .start fun m hm hupTo => ?_
      rw [Kind.isMarker, hcase m (List.mem_filter.mpr ⟨hm, decide_eq_true hupTo⟩)]
      rfl
    | some lane =>
      obtain ⟨m, hm, hlane, hmax⟩ := (hlast lane).mp hcase
      obtain ⟨hmem, hupTo⟩ := List.mem_filter.mp hm
      refine .marker hmem hlane (of_decide_eq_true hupTo) fun m' hm' hmarker hupTo' => ?_
      exact (hbefore m hmem m' hm').mpr
        (hmax m' (List.mem_filter.mpr ⟨hm', decide_eq_true hupTo'⟩) hmarker)

end Board

/-! ## By threads -/

namespace Lanes

/-- A marker among the tiles of a thread is the thread's own. -/
theorem lane_of_mem_within {lane : Lane} {tokens : List Token} {token : Token}
    (h : token ∈ within lane tokens) :
    token.kind.lane? = none ∨ token.kind.lane? = some lane := by
  rw [within, zip_sequence] at h
  obtain ⟨⟨own, token⟩, hmem, rfl⟩ := List.mem_map.mp h
  obtain ⟨htag, rfl⟩ := mem_tagsIn.mp hmem
  exact lane_of_marker htag

/-- The tiles of a thread that is not the first begin with a marker of theirs. -/
theorem lane_of_head_within {lane : Lane} (hlane : lane ≠ .first) {tokens : List Token}
    {token : Token} {rest : List Token} (h : within lane tokens = token :: rest) :
    token.kind.lane? = some lane := by
  rw [within, zip_sequence] at h
  obtain ⟨first, others, htags, rfl, -⟩ := List.map_eq_cons_iff.mp h
  exact lane_of_first hlane htags

/-- **The tiles of a thread, walked by themselves, stay in their thread.** -/
theorem tagFrom_within (lane : Lane) (tokens : List Token) :
    tagFrom .first (within lane tokens) = tagsIn lane (tagFrom .first tokens) := by
  rw [within, zip_sequence]
  by_cases hlane : lane = .first
  · subst hlane
    exact tagFrom_tagsIn .first .first tokens
  · exact tagFrom_tagsIn_of_ne hlane .first tokens

theorem ofTokens_within (lane other : Lane) (tokens : List Token) :
    (ofTokens (within lane tokens)).get other =
      if other = lane then within lane tokens else [] := by
  rw [ofTokens, get_ofTokensFrom, tagFrom_within]
  split
  · next h => rw [h, tagsIn_tagsIn_self, ← get_ofTokensFrom, ← get_ofTokens, ofTokens]
  · next h => rw [tagsIn_tagsIn_of_ne (Ne.symm h), List.map_nil]

end Lanes

/-! ## Headlines -/

/-- The command of a marker names its thread, counted from 1. -/
theorem Token.text_of_lane {token : Token} {lane : Lane} (h : token.kind.lane? = some lane) :
    token.text = "thread " ++ toString (lane.toNat + 1) := by
  obtain ⟨kind, param⟩ := token
  cases kind <;> cases h <;> rfl

namespace Board

variable {board : Board}

/-- Every cell has exactly one thread. -/
theorem existsUnique_nearestLane (h : board.WellFormed) (row col : Nat) :
    ∃! lane, board.NearestLane row col lane := by
  refine ⟨board.laneAt row col, (nearestLane_iff h).mpr rfl, fun lane hlane => ?_⟩
  exact ((nearestLane_iff h).mp hlane).symm

theorem mem_inLane_iff (h : board.WellFormed) {lane : Lane} {p : Placement} :
    p ∈ board.inLane lane ↔
      board.get p.row p.col = some p.token ∧ board.NearestLane p.row p.col lane := by
  rw [inLane, List.mem_filter, mem_placements_iff h.size_cells, nearestLane_iff h,
    decide_eq_true_eq]

/-- The tiles of a thread are listed in reading order. -/
theorem pairwise_inLane (h : board.WellFormed) (lane : Lane) :
    (board.inLane lane).Pairwise fun p q => p.row < q.row ∨ p.row = q.row ∧ p.col < q.col := by
  have horderly := orderly_placements h.size_cells
  have hbefore : ∀ p ∈ board.placements, ∀ q ∈ board.placements,
      p.index board.size < q.index board.size →
        p.row < q.row ∨ p.row = q.row ∧ p.col < q.col := by
    intro p hp q hq hlt
    have hle : p.UpTo q.row q.col :=
      (upTo_iff (horderly.on p hp).2 (horderly.on q hq).2).mpr (Nat.le_of_lt hlt)
    have hnot : ¬ q.UpTo p.row p.col := fun hqp =>
      Nat.not_le.mpr hlt ((upTo_iff (horderly.on q hq).2 (horderly.on p hp).2).mp hqp)
    unfold Placement.UpTo at hle hnot
    omega
  exact (horderly.increasing.imp_of_mem fun hp hq => hbefore _ hp _ hq).filter _

theorem text_scripts (board : Board) (lane : Lane) : board.scripts.text lane =
    Lanes.joinLines ((Lanes.within lane board.tokens).map Token.text) := by
  rw [Lanes.text, get_scripts]

theorem valid_of_mem_within (h : board.WellFormed) {lane : Lane} :
    ∀ token ∈ Lanes.within lane board.tokens, token.valid = true := by
  intro token htoken
  obtain ⟨⟨own, token⟩, hmem, rfl⟩ := List.mem_map.mp htoken
  exact h.valid_of_mem_tokens token (List.of_mem_zip (List.mem_of_mem_filter hmem)).2

/-- **The text of a thread is read as the tiles of the thread.** -/
theorem read_text_scripts (h : board.WellFormed) (lane : Lane) :
    Script.read (board.scripts.text lane) =
      .ok (Script.ofTokens ((board.inLane lane).map (·.token))) := by
  rw [text_scripts, Script.read_joinLines_text (valid_of_mem_within h), within_tokens h]

/-- The commands of a thread that is not the first begin with its marker. -/
theorem head?_scripts {lane : Lane} (hlane : lane ≠ .first)
    (hne : board.scripts.get lane ≠ []) :
    (board.scripts.get lane).head? = some ("thread " ++ toString (lane.toNat + 1)) := by
  rw [get_scripts] at hne ⊢
  cases hcase : Lanes.within lane board.tokens with
  | nil =>
    rw [hcase] at hne
    exact absurd rfl hne
  | cons token rest =>
    exact congrArg some (Token.text_of_lane (Lanes.lane_of_head_within hlane hcase))

/-- A marker in a thread is the thread's own. -/
theorem text_of_mem_inLane (h : board.WellFormed) {lane : Lane} {p : Placement}
    (hp : p ∈ board.inLane lane) (hmarker : p.token.kind.isMarker = true) :
    p.token.text = "thread " ++ toString (lane.toNat + 1) := by
  have hmem : p.token ∈ Lanes.within lane board.tokens := by
    rw [within_tokens h]
    exact List.mem_map_of_mem hp
  rcases Lanes.lane_of_mem_within hmem with hnone | hlane
  · rw [Kind.isMarker, hnone] at hmarker
    exact absurd hmarker Bool.false_ne_true
  · exact Token.text_of_lane hlane

theorem length_scripts (board : Board) : board.scripts.first.length +
    board.scripts.second.length + board.scripts.third.length = board.tokens.length := by
  rw [← board.lanes_flatten_perm.length_eq]
  simp only [scripts, Lanes.map, Lanes.flatten, List.length_map, List.length_append]

/-- The one script of all threads has no text exactly if the board has no tiles. -/
theorem flatText_scripts_eq_empty_iff : board.scripts.flatText = "" ↔ board.tokens = [] := by
  rw [flatText_scripts]
  constructor
  · intro hempty
    by_contra hne
    have hfull := Script.isBlank_joinLines_text (board.flatten_lanes_ne_nil hne)
    rw [hempty] at hfull
    exact absurd hfull (by decide)
  · intro hnil
    have hflat : board.lanes.flatten = [] := by rw [lanes, hnil]; rfl
    rw [hflat]
    rfl

/-- **The scripts of a board hold its tiles, each by the nearest marker.**  On every board that can
be reached, each cell has one thread, that of the nearest marker at or before it in reading order,
and the first thread if there is none.  The script of a thread has one command for each tile in a
cell of the thread, in reading order, so the three scripts have as many commands as the board has
tiles.  The text of a thread is read as these tiles.  Each marker in a thread is the thread's own,
and the commands of the second and of the third thread begin with one.  All threads together have
no text exactly if there are no tiles. -/
theorem scripts_by_nearest_marker (h : Reachable board) :
    (∀ row col, ∃! lane, board.NearestLane row col lane) ∧
    (∀ lane p, p ∈ board.inLane lane ↔
      board.get p.row p.col = some p.token ∧ board.NearestLane p.row p.col lane) ∧
    (∀ lane, (board.inLane lane).Pairwise fun p q =>
      p.row < q.row ∨ p.row = q.row ∧ p.col < q.col) ∧
    (∀ lane, board.scripts.get lane = (board.inLane lane).map (·.token.text)) ∧
    board.scripts.first.length + board.scripts.second.length + board.scripts.third.length =
      board.tokens.length ∧
    (∀ lane, Script.read (board.scripts.text lane) =
      .ok (Script.ofTokens ((board.inLane lane).map (·.token)))) ∧
    (∀ lane, ∀ p ∈ board.inLane lane, p.token.kind.isMarker = true →
      p.token.text = "thread " ++ toString (lane.toNat + 1)) ∧
    (∀ lane, lane ≠ .first → board.scripts.get lane ≠ [] →
      (board.scripts.get lane).head? = some ("thread " ++ toString (lane.toNat + 1))) ∧
    (board.scripts.flatText = "" ↔ board.tokens = []) := by
  have hwf := h.wellFormed
  exact ⟨existsUnique_nearestLane hwf, fun lane p => mem_inLane_iff hwf, pairwise_inLane hwf,
    get_scripts_inLane hwf, length_scripts board, read_text_scripts hwf,
    fun lane p => text_of_mem_inLane hwf, fun lane => head?_scripts, flatText_scripts_eq_empty_iff⟩

/-- A board with holes on which the second thread comes twice, around the third. -/
def scattered : Board :=
  ((((((empty .compact).set 0 1 (some (.plain .playX))).set 1 0
    (some (.plain .thread2))).set 1 3 (some ⟨.play, 4⟩)).set 2 0 (some (.plain .thread3))).set 2 2
    (some (.plain .thread2))).set 2 3 (some (.plain .add))

theorem reachable_scattered : Reachable scattered :=
  ((((((Reachable.empty .compact).perform (.set 0 1 (some (.plain .playX)))).perform (.set 1 0
    (some (.plain .thread2)))).perform (.set 1 3 (some ⟨.play, 4⟩))).perform (.set 2 0
    (some (.plain .thread3)))).perform (.set 2 2 (some (.plain .thread2)))).perform (.set 2 3
    (some (.plain .add)))

/-- The cells behind both markers of the second thread are of that thread. -/
theorem scripts_by_nearest_marker_scattered :
    Script.read (scattered.scripts.text .second) = .ok (Script.ofTokens
      [.plain .thread2, ⟨.play, 4⟩, .plain .thread2, .plain .add]) ∧
    scattered.scripts.flatText ≠ "" := by
  obtain ⟨-, -, -, -, -, hread, -, -, hempty⟩ := scripts_by_nearest_marker reachable_scattered
  exact ⟨(hread .second).trans (by decide), fun h => absurd (hempty.mp h) (by decide)⟩

/-- **The text of a thread is a script of its own.**  On every board that can be reached, the text
of a thread that has a tile makes a board of every size that has a cell for each of the thread's
tiles; on that board the thread has the same commands, and the others have none. -/
theorem lane_text_alone (h : Reachable board) {lane : Lane} (hne : board.scripts.get lane ≠ [])
    {size : Size} (hfit : (board.scripts.get lane).length ≤ size.area) :
    ∃ board', ofScript (board.scripts.text lane) size = .ok board' ∧
      board'.scripts.get lane = board.scripts.get lane ∧
      ∀ other, other ≠ lane → board'.scripts.get other = [] := by
  have hne' : Lanes.within lane board.tokens ≠ [] := by
    intro hnil
    rw [get_scripts, hnil] at hne
    exact hne rfl
  have hfit' : (Lanes.within lane board.tokens).length ≤ size.area := by
    rwa [get_scripts, List.length_map] at hfit
  obtain ⟨board', hscript, -, htokens⟩ :=
    exists_ofScript_text (valid_of_mem_within h.wellFormed) hne' hfit'
  -- the new board holds the thread's tiles, and these stay in their thread
  have hgets : ∀ other, board'.scripts.get other =
      (if other = lane then Lanes.within lane board.tokens else []).map Token.text := by
    intro other
    rw [scripts, Lanes.get_map, lanes, htokens, Lanes.ofTokens_within]
  refine ⟨board', ?_, ?_, fun other hother => ?_⟩
  · rw [text_scripts]
    exact hscript
  · rw [hgets, if_pos rfl, get_scripts]
  · rw [hgets, if_neg hother, List.map_nil]

/-- The two segments of the second thread make a board on their own, of another size. -/
theorem lane_text_alone_scattered :
    ∃ board', ofScript (scattered.scripts.text .second) { rows := 2, cols := 2 } = .ok board' ∧
      board'.scripts.get .second = ["thread 2", "play 5", "thread 2", "x = x + 1"] ∧
      board'.scripts.get .first = [] ∧ board'.scripts.get .third = [] := by
  have hsecond : scattered.scripts.get .second =
      ["thread 2", "play 5", "thread 2", "x = x + 1"] := by decide
  have hne : scattered.scripts.get .second ≠ [] := by rw [hsecond]; simp
  have hfit : (scattered.scripts.get .second).length ≤ Size.area { rows := 2, cols := 2 } := by
    rw [hsecond]
    decide
  obtain ⟨board', hscript, hsame, hnone⟩ := lane_text_alone reachable_scattered hne hfit
  exact ⟨board', hscript, hsame.trans hsecond, hnone .first (by decide), hnone .third (by decide)⟩

end Board

end Tileboard
