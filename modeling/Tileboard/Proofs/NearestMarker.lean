import Tileboard.Lanes
import Mathlib.Data.List.Perm.Basic

/-!
Lanes by the nearest marker, and what grouping by lane does to a sequence of tiles.

`Lanes.ofTokens` walks a sequence and carries the lane of the last marker it has met.

1. **Specification** — `nearest tokens i` is the lane of the nearest marker at or before place `i`,
   with no walk in it, and `within lane tokens` are the tiles whose nearest marker is of the lane.

2. **The walk agrees** — `tagFrom` is the walk that keeps each tile with its lane; the lanes it
   gives are those of the nearest markers (`map_fst_tagFrom`), so each lane holds exactly its tiles
   in their order (`get_ofTokens`).

3. **The crux (`tagFrom_flatten`)** — grouped by lane, the tiles are walked again, and each gets the
   lane it had.  The tiles of one lane keep the walk in that lane, because every marker among them
   is of the lane (`lane_of_marker`); and the walk gets there in the first place, because the tiles
   of any lane but the one it starts in begin with a marker of theirs (`lane_of_first`).

4. **Consequences** — grouping twice is grouping once (`ofTokens_flatten`), grouping loses no tile
   (`flatten_perm`), and it changes nothing exactly if the lanes were in order already
   (`flatten_eq_self_iff`).
-/

namespace Tileboard

namespace Lanes

/-! ## Specification -/

/-- The lane of the tile at a place: that of the nearest marker at or before it, and the first lane
if there is none. -/
def nearest (tokens : List Token) (i : Nat) : Lane :=
  ((tokens.take (i + 1)).filterMap (·.kind.lane?)).getLast?.getD .first

/-- The lanes of the tiles of a sequence. -/
def sequence (tokens : List Token) : List Lane :=
  (List.range tokens.length).map (nearest tokens)

/-- The tiles of a sequence that belong to the lane, in their order. -/
def within (lane : Lane) (tokens : List Token) : List Token :=
  (((sequence tokens).zip tokens).filter (·.1 = lane)).map Prod.snd

/-! ## The walk -/

/-- The tagged tiles of one lane. -/
def tagsIn (lane : Lane) (tagged : List (Lane × Token)) : List (Lane × Token) :=
  tagged.filter (·.1 = lane)

theorem mem_tagsIn {lane : Lane} {tagged : List (Lane × Token)} {e : Lane × Token} :
    e ∈ tagsIn lane tagged ↔ e ∈ tagged ∧ e.1 = lane := by
  rw [tagsIn, List.mem_filter, decide_eq_true_eq]

theorem tagsIn_cons_self (lane : Lane) (token : Token) (rest : List (Lane × Token)) :
    tagsIn lane ((lane, token) :: rest) = (lane, token) :: tagsIn lane rest :=
  List.filter_cons_of_pos (by simp)

theorem tagsIn_cons_of_ne {lane own : Lane} (h : own ≠ lane) (token : Token)
    (rest : List (Lane × Token)) : tagsIn lane ((own, token) :: rest) = tagsIn lane rest :=
  List.filter_cons_of_neg (by simpa using h)

theorem tagsIn_append (lane : Lane) (xs ys : List (Lane × Token)) :
    tagsIn lane (xs ++ ys) = tagsIn lane xs ++ tagsIn lane ys :=
  List.filter_append ..

theorem tagsIn_tagsIn_self (lane : Lane) (tagged : List (Lane × Token)) :
    tagsIn lane (tagsIn lane tagged) = tagsIn lane tagged :=
  List.filter_eq_self.mpr fun _ he => decide_eq_true (mem_tagsIn.mp he).2

theorem tagsIn_tagsIn_of_ne {lane other : Lane} (h : other ≠ lane)
    (tagged : List (Lane × Token)) : tagsIn lane (tagsIn other tagged) = [] := by
  refine List.filter_eq_nil_iff.mpr fun e he => ?_
  rw [(mem_tagsIn.mp he).2, decide_eq_true_eq]
  exact h

/-- The tiles of a sequence with their lanes; those before the first marker are of the given
lane. -/
def tagFrom (lane : Lane) : List Token → List (Lane × Token)
  | [] => []
  | token :: rest =>
    let lane := token.kind.lane?.getD lane
    (lane, token) :: tagFrom lane rest

@[simp] theorem map_snd_tagFrom (lane : Lane) (tokens : List Token) :
    (tagFrom lane tokens).map Prod.snd = tokens := by
  induction tokens generalizing lane with
  | nil => rfl
  | cons token rest ih => simp [tagFrom, ih]

/-- The lanes of the walk are those of the nearest markers. -/
theorem map_fst_tagFrom (lane : Lane) (tokens : List Token) :
    (tagFrom lane tokens).map Prod.fst = (List.range tokens.length).map fun i =>
      ((tokens.take (i + 1)).filterMap (·.kind.lane?)).getLast?.getD lane := by
  induction tokens generalizing lane with
  | nil => rfl
  | cons token rest ih =>
    rw [List.length_cons, List.range_succ_eq_map, List.map_cons, List.map_map, tagFrom,
      List.map_cons, ih]
    refine congrArg₂ List.cons ?_ (List.map_congr_left fun i _ => ?_)
    · cases h : token.kind.lane? <;> simp [h]
    · -- a marker further on is nearer than this tile, which is nearer than what came before
      cases h : token.kind.lane? <;> simp [h, List.getLast?_cons]

theorem sequence_eq_map_fst (tokens : List Token) :
    sequence tokens = (tagFrom .first tokens).map Prod.fst :=
  (map_fst_tagFrom .first tokens).symm

theorem zip_sequence (tokens : List Token) :
    (sequence tokens).zip tokens = tagFrom .first tokens := by
  rw [sequence_eq_map_fst]
  exact (List.zip_of_prod rfl (map_snd_tagFrom .first tokens)).symm

theorem get_ofTokensFrom (lane start : Lane) (tokens : List Token) :
    (ofTokensFrom start tokens).get lane = (tagsIn lane (tagFrom start tokens)).map Prod.snd := by
  induction tokens generalizing start with
  | nil => exact get_empty lane
  | cons token rest ih =>
    rw [ofTokensFrom, tagFrom]
    by_cases h : token.kind.lane?.getD start = lane
    · subst h
      rw [get_cons_self, ih, tagsIn_cons_self, List.map_cons]
    · rw [get_cons_of_ne (Ne.symm h), ih, tagsIn_cons_of_ne h]

/-- **Each lane holds exactly its tiles**, in their order. -/
theorem get_ofTokens (lane : Lane) (tokens : List Token) :
    (ofTokens tokens).get lane = within lane tokens := by
  rw [within, zip_sequence, ofTokens, get_ofTokensFrom, tagsIn]

theorem flatten_ofTokens (tokens : List Token) : (ofTokens tokens).flatten =
    within .first tokens ++ within .second tokens ++ within .third tokens := by
  rw [← get_ofTokens, ← get_ofTokens, ← get_ofTokens]
  rfl

/-! ## The crux: walking the grouped tiles -/

/-- A marker is of its own lane. -/
theorem lane_of_marker {start lane : Lane} {token : Token} {tokens : List Token}
    (h : (lane, token) ∈ tagFrom start tokens) :
    token.kind.lane? = none ∨ token.kind.lane? = some lane := by
  induction tokens generalizing start with
  | nil => exact absurd h List.not_mem_nil
  | cons first rest ih =>
    rcases List.mem_cons.mp h with heq | hmem
    · injection heq with hlane htoken
      subst htoken
      cases hk : token.kind.lane? with
      | none => exact Or.inl rfl
      | some own =>
        rw [hk] at hlane
        exact Or.inr (congrArg some hlane.symm)
    · exact ih hmem

/-- The tiles of a lane in which the walk does not start begin with a marker. -/
theorem lane_of_first {start lane : Lane} (hne : lane ≠ start) {tokens : List Token}
    {first : Lane × Token} {rest : List (Lane × Token)}
    (h : tagsIn lane (tagFrom start tokens) = first :: rest) :
    first.2.kind.lane? = some lane := by
  induction tokens generalizing start with
  | nil => nomatch h
  | cons token tokens ih =>
    rw [tagFrom] at h
    by_cases hlane : token.kind.lane?.getD start = lane
    · -- the walk has left its lane at this tile, so the tile is a marker
      subst hlane
      rw [tagsIn_cons_self] at h
      injection h with hfirst _
      subst hfirst
      cases hk : token.kind.lane? with
      | none => rw [hk] at hne; exact absurd rfl hne
      | some own => rfl
    · rw [tagsIn_cons_of_ne hlane] at h
      exact ih (Ne.symm hlane) h

/-- Tiles of one lane, walked from that lane, stay in it. -/
theorem tagFrom_of_one_lane {lane : Lane} {tagged : List (Lane × Token)}
    (h : ∀ e ∈ tagged, e.1 = lane ∧ (e.2.kind.lane? = none ∨ e.2.kind.lane? = some lane)) :
    tagFrom lane (tagged.map Prod.snd) = tagged := by
  induction tagged with
  | nil => rfl
  | cons e rest ih =>
    obtain ⟨own, token⟩ := e
    obtain ⟨rfl, hmarker⟩ := h _ (List.mem_cons_self ..)
    have hstay : token.kind.lane?.getD own = own := by
      rcases hmarker with hn | hs
      · rw [hn]; rfl
      · rw [hs]; rfl
    rw [List.map_cons, tagFrom, hstay, ih fun e he => h e (List.mem_cons_of_mem _ he)]

/-- The walk forgets where it started as soon as it meets a marker. -/
theorem tagFrom_of_first_marker {lane : Lane} {token : Token} (h : token.kind.lane? = some lane)
    (start start' : Lane) (rest : List Token) :
    tagFrom start (token :: rest) = tagFrom start' (token :: rest) := by
  rw [tagFrom, tagFrom, h]
  rfl

/-- The tiles of a lane, walked from that lane, get it again. -/
theorem tagFrom_tagsIn (start lane : Lane) (tokens : List Token) :
    tagFrom lane ((tagsIn lane (tagFrom start tokens)).map Prod.snd) =
      tagsIn lane (tagFrom start tokens) := by
  refine tagFrom_of_one_lane fun e he => ?_
  obtain ⟨hmem, hlane⟩ := mem_tagsIn.mp he
  exact ⟨hlane, hlane ▸ lane_of_marker hmem⟩

/-- If the lane is not where the walk started, they get it from wherever they are walked. -/
theorem tagFrom_tagsIn_of_ne {start lane : Lane} (hne : lane ≠ start) (start' : Lane)
    (tokens : List Token) : tagFrom start' ((tagsIn lane (tagFrom start tokens)).map Prod.snd) =
      tagsIn lane (tagFrom start tokens) := by
  have hown := tagFrom_tagsIn start lane tokens
  rcases hf : tagsIn lane (tagFrom start tokens) with _ | ⟨first, rest⟩
  · rfl
  · rw [hf] at hown
    rw [List.map_cons, tagFrom_of_first_marker (lane_of_first hne hf) start' lane]
    exact hown

/-- The walk over two sequences is the walk over the first, and then over the second from the lane
it has reached. -/
theorem exists_tagFrom_append (start : Lane) (xs : List Token) :
    ∃ reached, ∀ ys, tagFrom start (xs ++ ys) = tagFrom start xs ++ tagFrom reached ys := by
  induction xs generalizing start with
  | nil => exact ⟨start, fun ys => rfl⟩
  | cons token rest ih =>
    obtain ⟨reached, h⟩ := ih (token.kind.lane?.getD start)
    exact ⟨reached, fun ys => by rw [List.cons_append, tagFrom, tagFrom, h, List.cons_append]⟩

/-- **Grouped tiles get the lanes they had**: walking them gives the tiles of the first lane, then
those of the second, then those of the third. -/
theorem tagFrom_flatten (tokens : List Token) : tagFrom .first (ofTokens tokens).flatten =
    tagsIn .first (tagFrom .first tokens) ++ tagsIn .second (tagFrom .first tokens) ++
      tagsIn .third (tagFrom .first tokens) := by
  have hflat : (ofTokens tokens).flatten =
      (tagsIn .first (tagFrom .first tokens)).map Prod.snd ++
        (tagsIn .second (tagFrom .first tokens)).map Prod.snd ++
        (tagsIn .third (tagFrom .first tokens)).map Prod.snd := by
    rw [← get_ofTokensFrom, ← get_ofTokensFrom, ← get_ofTokensFrom]
    rfl
  -- the walk starts in the first lane; the tiles of the others bring their own marker, so the lane
  -- that was reached before them does not matter
  obtain ⟨after1, h1⟩ :=
    exists_tagFrom_append .first ((tagsIn .first (tagFrom .first tokens)).map Prod.snd)
  obtain ⟨after2, h2⟩ :=
    exists_tagFrom_append .first ((tagsIn .first (tagFrom .first tokens)).map Prod.snd ++
      (tagsIn .second (tagFrom .first tokens)).map Prod.snd)
  rw [hflat, h2, h1, tagFrom_tagsIn, tagFrom_tagsIn_of_ne (by decide),
    tagFrom_tagsIn_of_ne (by decide)]

/-! ## Consequences -/

theorem ext_get {α : Type} {lanes lanes' : Lanes α} (h : ∀ lane, lanes.get lane = lanes'.get lane) :
    lanes = lanes' := by
  obtain ⟨a, b, c⟩ := lanes
  obtain ⟨a', b', c'⟩ := lanes'
  have h1 : a = a' := h .first
  have h2 : b = b' := h .second
  have h3 : c = c' := h .third
  rw [h1, h2, h3]

/-- **Grouping twice is grouping once.** -/
theorem ofTokens_flatten (tokens : List Token) :
    ofTokens (ofTokens tokens).flatten = ofTokens tokens := by
  refine ext_get fun lane => ?_
  rw [ofTokens, get_ofTokensFrom, tagFrom_flatten, ofTokens, get_ofTokensFrom, tagsIn_append,
    tagsIn_append]
  cases lane with
  | first =>
    rw [tagsIn_tagsIn_self, tagsIn_tagsIn_of_ne (by decide), tagsIn_tagsIn_of_ne (by decide),
      List.append_nil, List.append_nil]
  | second =>
    rw [tagsIn_tagsIn_self, tagsIn_tagsIn_of_ne (by decide), tagsIn_tagsIn_of_ne (by decide),
      List.append_nil, List.nil_append]
  | third =>
    rw [tagsIn_tagsIn_self, tagsIn_tagsIn_of_ne (by decide), tagsIn_tagsIn_of_ne (by decide),
      List.append_nil, List.nil_append]

theorem flatten_cons_perm {α : Type} (lane : Lane) (a : α) (lanes : Lanes α) :
    (lanes.cons lane a).flatten.Perm (a :: lanes.flatten) := by
  cases lane with
  | first => exact List.Perm.refl _
  | second =>
    show (lanes.first ++ a :: lanes.second ++ lanes.third).Perm _
    rw [List.append_assoc, List.cons_append]
    exact List.perm_middle.trans (by rw [flatten, List.append_assoc])
  | third => exact List.perm_middle

/-- **Grouping keeps every tile**, each as often as it was there. -/
theorem flatten_perm (tokens : List Token) : (ofTokens tokens).flatten.Perm tokens := by
  suffices h : ∀ start, (ofTokensFrom start tokens).flatten.Perm tokens from h .first
  induction tokens with
  | nil => intro start; exact List.Perm.refl _
  | cons token rest ih =>
    intro start
    exact (flatten_cons_perm _ token _).trans ((ih _).cons token)

/-- Tagged tiles whose lanes are in order are those of the first lane, then those of the second,
then those of the third. -/
theorem tagsIn_append_of_sorted {tagged : List (Lane × Token)}
    (h : tagged.Pairwise fun a b => a.1.toNat ≤ b.1.toNat) :
    tagsIn .first tagged ++ tagsIn .second tagged ++ tagsIn .third tagged = tagged := by
  induction tagged with
  | nil => rfl
  | cons e rest ih =>
    obtain ⟨hle, hrest⟩ := List.pairwise_cons.mp h
    have hih := ih hrest
    obtain ⟨lane, token⟩ := e
    -- no tile behind this one is of an earlier lane
    have hnone : ∀ earlier : Lane, earlier.toNat < lane.toNat → tagsIn earlier rest = [] := by
      intro earlier hlt
      refine List.filter_eq_nil_iff.mpr fun e he => ?_
      rw [decide_eq_true_eq]
      intro hlane
      have hle' := hle e he
      rw [hlane] at hle'
      exact absurd hlt (Nat.not_lt.mpr hle')
    cases lane with
    | first =>
      rw [tagsIn_cons_self, tagsIn_cons_of_ne (by decide), tagsIn_cons_of_ne (by decide),
        List.cons_append, List.cons_append, hih]
    | second =>
      rw [hnone .first (by decide), List.nil_append] at hih
      rw [tagsIn_cons_self, tagsIn_cons_of_ne (by decide), tagsIn_cons_of_ne (by decide),
        hnone .first (by decide), List.nil_append, List.cons_append, hih]
    | third =>
      rw [hnone .first (by decide), hnone .second (by decide), List.nil_append, List.nil_append]
        at hih
      rw [tagsIn_cons_self, tagsIn_cons_of_ne (by decide), tagsIn_cons_of_ne (by decide),
        hnone .first (by decide), hnone .second (by decide), List.nil_append, List.nil_append, hih]

/-- The lanes of grouped tiles are in order. -/
theorem pairwise_sequence_flatten (tokens : List Token) :
    ((sequence (ofTokens tokens).flatten).map Lane.toNat).Pairwise (· ≤ ·) := by
  rw [sequence_eq_map_fst, tagFrom_flatten, List.map_map, List.pairwise_map]
  have hsame : ∀ lane : Lane, (tagsIn lane (tagFrom .first tokens)).Pairwise
      fun a b => a.1.toNat ≤ b.1.toNat := by
    intro lane
    refine List.pairwise_iff_forall_sublist.mpr fun {a b} hab => ?_
    have ha : a.1 = lane := (mem_tagsIn.mp (hab.subset (by simp : a ∈ [a, b]))).2
    have hb : b.1 = lane := (mem_tagsIn.mp (hab.subset (by simp : b ∈ [a, b]))).2
    exact Nat.le_of_eq (by rw [ha, hb])
  refine List.pairwise_append.mpr ⟨List.pairwise_append.mpr ⟨hsame _, hsame _, ?_⟩, hsame _, ?_⟩
  · intro a ha b hb
    show a.1.toNat ≤ b.1.toNat
    rw [(mem_tagsIn.mp ha).2, (mem_tagsIn.mp hb).2]
    decide
  · intro a ha b hb
    show a.1.toNat ≤ b.1.toNat
    rw [(mem_tagsIn.mp hb).2]
    rcases List.mem_append.mp ha with ha | ha
    · rw [(mem_tagsIn.mp ha).2]; decide
    · rw [(mem_tagsIn.mp ha).2]; decide

/-- **Grouping changes nothing exactly if the lanes are in order already.** -/
theorem flatten_eq_self_iff {tokens : List Token} : (ofTokens tokens).flatten = tokens ↔
    ((sequence tokens).map Lane.toNat).Pairwise (· ≤ ·) := by
  constructor
  · intro h
    rw [← h]
    exact pairwise_sequence_flatten tokens
  · intro h
    rw [sequence_eq_map_fst, List.map_map, List.pairwise_map] at h
    have htag : tagFrom .first (ofTokens tokens).flatten = tagFrom .first tokens := by
      rw [tagFrom_flatten]
      exact tagsIn_append_of_sorted h
    have hsnd := congrArg (List.map Prod.snd) htag
    rwa [map_snd_tagFrom, map_snd_tagFrom] at hsnd

end Lanes

end Tileboard
