import Tileboard.Proofs.ReaderRuns

/-!
Where the reader of board files stands when a text breaks off.

1. **Waiting** — the reader waits through a text if it has found no fault behind any beginning of it
   and its answer there is that the text ends too early (`State.Waits`).  Steps, spaces and items of
   brackets put one after the other are waited through (`Waits.cons`, `Idle.waits`,
   `Waits.append_of_reads`).

2. **Numbers and strings** — a number may break off behind any digit, because what is there is a
   smaller number that would be accepted (`waits_write`); a name may break off anywhere
   (`waits_printName`).

3. **Brackets (`waits_separated`)** — items that are read and waited through are waited through with
   the commas and spaces between them, and with their brackets (`waits_bracketed`).  The items are
   the members of a list (`waitsItems_list`) or the fields of an object (`waitsItems_fields`).
-/

namespace Tileboard.BoardFile

open Text

/-! ## Waiting -/

namespace State

variable {s s' : State} {c : Char} {cs gap : List Char}

/-- If the text ends here, it ends too early. -/
def Unfinished (s : State) : Prop :=
  ∃ what, s.finish = .error (.unfinished what)

/-- Wherever the text breaks off, it ends too early. -/
def Waits (s : State) (text : List Char) : Prop :=
  ∀ cut, cut <+: text → ∃ s', s.feedAll cut = .ok s' ∧ s'.Unfinished

theorem Waits.unfinished {text : List Char} (h : s.Waits text) : s.Unfinished := by
  obtain ⟨s', hs', hun⟩ := h [] List.nil_prefix
  cases hs'
  exact hun

theorem waits_nil (h : s.Unfinished) : s.Waits [] := by
  intro cut hcut
  rw [List.prefix_nil.mp hcut]
  exact ⟨s, rfl, h⟩

/-- The text breaks off in front of a character, or behind it. -/
theorem Waits.cons (hs : s.Unfinished) (hfeed : s.feed c = .ok s') (h : s'.Waits cs) :
    s.Waits (c :: cs) := by
  intro cut hcut
  rcases List.prefix_cons_iff.mp hcut with rfl | ⟨tail, rfl, htail⟩
  · exact ⟨s, rfl, hs⟩
  · rw [feedAll_cons_of_feed hfeed]
    exact h tail htail

/-- The text breaks off in it or is there in full. -/
theorem Waits.concat (h : s.Waits cs) (hall : s.feedAll (cs ++ [c]) = .ok s')
    (hs' : s'.Unfinished) : s.Waits (cs ++ [c]) := by
  intro cut hcut
  rcases List.prefix_concat_iff.mp hcut with rfl | hcut
  · exact ⟨s', hall, hs'⟩
  · exact h cut hcut

theorem Idle.waits (hs : Idle s) (hgap : Spaces gap) {rest : List Char} (h : s.Waits rest) :
    s.Waits (gap ++ rest) := by
  induction gap with
  | nil => exact h
  | cons c gap ih =>
    have hrest := ih fun d hd => hgap d (List.mem_cons_of_mem c hd)
    exact .cons h.unfinished (hs c (hgap c (List.mem_cons_self ..))) hrest

theorem unfinished_value (wanted : Wanted) : Unfinished (.value wanted) :=
  ⟨_, rfl⟩

theorem unfinished_colon (wanted : Wanted) : Unfinished (.colon wanted) :=
  ⟨_, rfl⟩

theorem unfinished_string (scan : StringScan) (use : StringUse) : Unfinished (.string scan use) :=
  ⟨_, rfl⟩

theorem unfinished_literal (which : Literal) (left : List Char) (use : LiteralUse) :
    Unfinished (.literal which left use) :=
  ⟨_, rfl⟩

theorem unfinished_inside {gap : Gap} (hgap : gap ≠ .afterComma) (c : Container) :
    Unfinished (.inside gap c) := by
  cases gap with
  | afterComma => exact absurd rfl hgap
  | first | afterItem => exact ⟨_, rfl⟩

/-- Brackets that want a further item are unfinished behind a comma too. -/
theorem unfinished_object (gap : Gap) {c : Container} (h : c.isObject = true) :
    Unfinished (.inside gap c) := by
  cases gap with
  | first | afterItem => exact ⟨_, rfl⟩
  | afterComma => exact ⟨_, by rw [finish, unfinishedInside, if_pos h]⟩

theorem unfinished_list (gap : Gap) {c : Container} {wanted : Wanted} (h : c.isObject = false)
    (hitem : c.item? = some wanted) : Unfinished (.inside gap c) := by
  cases gap with
  | first | afterItem => exact ⟨_, rfl⟩
  | afterComma => exact ⟨.value, by simp [finish, unfinishedInside, h, hitem]⟩

/-- What follows an item is waited through behind it.  Only a text that goes on shows that a number
has ended, so the case of a text that breaks off right behind the item is one of the item. -/
theorem Waits.append_of_reads {item rest : List Char} {c : Container} (hreads : s.Reads item c)
    (hitem : s.Waits item) (hrest : (inside .afterItem c).Waits rest)
    (hends : rest ≠ [] → Ends rest) : s.Waits (item ++ rest) := by
  intro cut hcut
  rcases List.prefix_or_prefix_of_prefix hcut (List.prefix_append item rest) with hin | ⟨more, rfl⟩
  · exact hitem cut hin
  · have hmore := (List.prefix_append_right_inj item).mp hcut
    cases more with
    | nil =>
      rw [List.append_nil]
      exact hitem item (List.prefix_refl item)
    | cons ch more =>
      obtain ⟨tail, rfl⟩ := hmore
      -- the character behind the item is the first one of the rest
      obtain ⟨_, _, hcons, hch⟩ := hends (by simp)
      rw [List.cons_append, List.cons.injEq] at hcons
      rw [hreads (ch :: more) (ends_cons (hcons.1 ▸ hch))]
      exact hrest (ch :: more) (List.prefix_append ..)

end State

/-- Wherever an item may stand between the brackets, the text is waited through. -/
def WaitsItem (c : Container) (item : List Char) : Prop :=
  ∀ gap, gap ≠ .afterItem → (State.inside gap c).Waits item

/-- The texts are read as items, one after the other, and waited through. -/
inductive WaitsItems : Container → List (List Char) → Container → Prop
  | nil {c : Container} : WaitsItems c [] c
  | cons {c c' c'' : Container} {item : List Char} {items : List (List Char)}
      (reads : ReadsItem c item c') (waits : WaitsItem c item) (rest : WaitsItems c' items c'') :
      WaitsItems c (item :: items) c''

theorem WaitsItems.reads {c c' : Container} {items : List (List Char)} (h : WaitsItems c items c') :
    ReadsItems c items c' := by
  induction h with
  | nil => exact .nil
  | cons reads _ _ ih => exact .cons reads ih

/-! ## Numbers -/

/-- A number that would be accepted is unfinished, because its brackets are still open. -/
theorem unfinished_number {use : NumberUse} {n : Nat} {c : Container}
    (haccept : use.accept (.whole n) = .ok c) : State.Unfinished (.number (.whole n) use) := by
  have hcomplete : (NumberScan.whole n).complete = true := by
    by_cases hn : n = 0
    · subst hn
      rfl
    · simp [NumberScan.complete, NumberScan.whole, hn]
  refine ⟨if c.isObject then .object else .list, ?_⟩
  simp only [State.finish, State.unfinishedNumber, hcomplete, if_true, haccept,
    State.unfinishedInside]

/-- **A number may break off behind any of its digits**, if every smaller number is accepted too. -/
theorem waits_write {wanted : Wanted} {use : NumberUse} {otherwise : Char → Except Fault State}
    (hstart : ∀ c, wanted.start c = beginNumber use otherwise c) :
    ∀ (n : Nat), n < Nat.pow 2 64 → (∀ m ≤ n, ∃ c, use.accept (.whole m) = .ok c) →
      (State.value wanted).Waits (Numeral.write n) := by
  intro n
  induction n using Nat.strongRecOn with
  | _ n ih =>
    intro hn haccept
    obtain ⟨c, hc⟩ := haccept n (Nat.le_refl n)
    have hall := feedAll_write hstart n hn []
    rw [List.append_nil] at hall
    by_cases hten : n < 10
    · rw [Numeral.write_of_lt hten]
      exact .cons (State.unfinished_value wanted) (feed_first_digit hstart hten)
        (State.waits_nil (unfinished_number hc))
    · have hsmaller : n / 10 < n := by omega
      rw [Numeral.write_of_le (by omega)] at hall ⊢
      exact (ih (n / 10) hsmaller (by omega) fun m hm => haccept m (by omega)).concat hall
        (unfinished_number hc)

/-! ## Strings and literals -/

theorem waits_stringFrom {cs rest : List Char} (h : Verbatim cs) {use : StringUse} {s : State}
    (hrest : s.Waits rest) : ∀ reversed,
      use.accept (String.ofList (reversed.reverse ++ cs)) = .ok s →
      (State.string ⟨true, reversed, .plain⟩ use).Waits (cs ++ '"' :: rest) := by
  induction cs with
  | nil =>
    intro reversed haccept
    rw [List.append_nil] at haccept
    exact .cons (State.unfinished_string _ use) haccept hrest
  | cons c cs ih =>
    intro reversed haccept
    rw [Verbatim, List.all_cons, Bool.and_eq_true] at h
    have hfeed : (State.string ⟨true, reversed, .plain⟩ use).feed c =
        .ok (.string ⟨true, c :: reversed, .plain⟩ use) := by
      rw [State.feed, step_of_isVerbatim h.1]
      rfl
    exact .cons (State.unfinished_string _ use) hfeed (ih h.2 _ (by simpa using haccept))

/-- **A name may break off anywhere.** -/
theorem waits_printName {s s' : State} {use : StringUse} {name : String} {rest : List Char}
    (hs : s.Unfinished) (hquote : s.feed '"' = .ok (.string (.start true) use))
    (h : Verbatim name.toList) (haccept : use.accept name = .ok s') (hrest : s'.Waits rest) :
    s.Waits (printName name ++ rest) := by
  have happend : printName name ++ rest = '"' :: (name.toList ++ '"' :: rest) := by
    simp [printName]
  rw [happend]
  refine .cons hs hquote (waits_stringFrom h hrest [] ?_)
  rwa [List.reverse_nil, List.nil_append, String.ofList_toList]

theorem waits_kind (t : OpenToken) (kind : Kind) :
    (State.value (.kind t)).Waits (printName kind.key) := by
  have haccept : (StringUse.kind t).accept kind.key =
      .ok (.inside .afterItem (.token { t with kind := some kind })) := by
    rw [StringUse.accept, Kind.ofKey?_key]
  rw [← List.append_nil (printName kind.key)]
  exact waits_printName (State.unfinished_value _) rfl (verbatim_key kind) haccept
    (State.waits_nil (State.unfinished_inside (by decide) _))

theorem waits_null (r : OpenRow) : (State.value (.cell r)).Waits "null".toList := by
  have hend : State.Unfinished (.inside .afterItem (.row (r.push none))) :=
    State.unfinished_inside (by decide) _
  exact .cons (State.unfinished_value _) rfl (.cons (State.unfinished_literal ..) rfl
    (.cons (State.unfinished_literal ..) rfl (.cons (State.unfinished_literal ..) rfl
      (State.waits_nil hend))))

/-! ## Brackets -/

/-- **Items are waited through with the commas and spaces between them.** -/
theorem waits_separated {items : List (List Char)} {content : List Char}
    (hsep : Separated items content) (hitems : items ≠ []) :
    ∀ {c c' : Container} {gap : Gap}, WaitsItems c items c' → gap ≠ .afterItem →
      (State.inside gap c).Waits content := by
  induction hsep with
  | none _ => exact absurd rfl hitems
  | @last item left right hl hr =>
    intro c c' gap hall hgap
    cases hall with | cons hreads hwaits hnone => ?_
    cases hnone
    have hend : (State.inside .afterItem c').Waits [] :=
      State.waits_nil (State.unfinished_inside (by decide) c')
    have hright := (State.idle_inside .afterItem c').waits hr hend
    rw [List.append_nil] at hright
    refine (State.idle_inside gap c).waits hl ((hwaits gap hgap).append_of_reads (hreads gap hgap)
      hright fun hne => ?_)
    obtain ⟨ch, right, rfl⟩ := List.exists_cons_of_ne_nil hne
    refine ends_cons ?_
    simp [endsValue, hr ch (List.mem_cons_self ..)]
  | @more item next left right tail items hl hr _ ih =>
    intro c c' gap hall hgap
    cases hall with | @cons _ c₁ _ _ _ hreads hwaits hmore => ?_
    have htail : (State.inside .afterComma c₁).Waits tail := ih (by simp) hmore (by decide)
    have hcomma : (State.inside .afterItem c₁).Waits (',' :: tail) :=
      .cons (State.unfinished_inside (by decide) c₁) (feed_comma c₁) htail
    exact (State.idle_inside gap c).waits hl ((hwaits gap hgap).append_of_reads (hreads gap hgap)
      ((State.idle_inside .afterItem c₁).waits hr hcomma)
      fun _ => ends_append_of_spaces hr (ends_cons rfl))

/-- **Brackets are waited through up to the closing one.** -/
theorem waits_open {s : State} {c c' : Container} {openBracket : Char} {items : List (List Char)}
    {content : List Char} (hs : s.Unfinished) (hopen : s.feed openBracket = .ok (.inside .first c))
    (hall : WaitsItems c items c') (hsep : Separated items content) :
    s.Waits (openBracket :: content) := by
  refine .cons hs hopen ?_
  cases items with
  | nil =>
    cases hsep with | none hgap => ?_
    have hend : (State.inside .first c).Waits [] :=
      State.waits_nil (State.unfinished_inside (by decide) c)
    have hcontent := (State.idle_inside .first c).waits hgap hend
    rwa [List.append_nil] at hcontent
  | cons item items => exact waits_separated hsep (by simp) hall (by decide)

/-- Brackets within others are waited through, because the others are still open. -/
theorem waits_bracketed {s s' : State} {c c' : Container} {openBracket : Char}
    {items : List (List Char)} {text : List Char} (hs : s.Unfinished)
    (hopen : s.feed openBracket = .ok (.inside .first c)) (hall : WaitsItems c items c')
    (h : Bracketed openBracket c'.closing items text) (hclose : c'.close = .ok s')
    (hs' : s'.Unfinished) : s.Waits text := by
  have hread := feedAll_bracketed hopen hall.reads h []
  obtain ⟨content, hsep, rfl⟩ := h
  rw [List.append_nil, hclose] at hread
  exact (waits_open hs hopen hall hsep).concat hread hs'

/-! ## Lists -/

/-- A value is waited through as an item of a list. -/
theorem waitsItem_of_value {c : Container} {wanted : Wanted} {text : List Char}
    (hlist : c.isObject = false) (hitem : c.item? = some wanted) (hbegins : Begins text)
    (h : (State.value wanted).Waits text) : WaitsItem c text := by
  intro gap hgap cut hcut
  obtain ⟨ch, tail, rfl, hspace, hclose⟩ := hbegins
  rcases List.prefix_cons_iff.mp hcut with rfl | ⟨cut, rfl, -⟩
  · exact ⟨_, rfl, State.unfinished_list gap hlist hitem⟩
  · rw [State.feedAll_cons, feed_member hlist hitem hgap hspace hclose, ← State.feedAll_cons]
    exact h _ hcut

/-- **The members of a list are waited through one by one.** -/
theorem waitsItems_list {σ α : Type} (brackets : σ → Container) {push : σ → α → σ}
    {isItem : α → List Char → Prop} {members : List α} {items : List (List Char)}
    (h : List.Forall₂ isItem members items)
    (hreads : ∀ s, ∀ a ∈ members, ∀ item, isItem a item →
      ReadsItem (brackets s) item (brackets (push s a)))
    (hwaits : ∀ s, ∀ a ∈ members, ∀ item, isItem a item → WaitsItem (brackets s) item) :
    ∀ s, WaitsItems (brackets s) items (brackets (members.foldl push s)) := by
  induction h with
  | nil => exact fun _ => .nil
  | @cons a item members items ha _ ih =>
    intro s
    have hrest := ih (fun s b hb => hreads s b (List.mem_cons_of_mem a hb))
      (fun s b hb => hwaits s b (List.mem_cons_of_mem a hb))
    exact .cons (hreads s a (List.mem_cons_self ..) item ha)
      (hwaits s a (List.mem_cons_self ..) item ha) (hrest (push s a))

/-! ## Objects -/

/-- A field is waited through as an item of an object. -/
theorem waitsItem_field {c : Container} {wanted : Wanted} {use : StringUse} {name : String}
    {isValue : List Char → Prop} {text : List Char} (hobject : c.isObject = true)
    (hbegin : c.beginKey = .string (.start true) use) (hname : Verbatim name.toList)
    (hkey : use.accept name = .ok (.colon wanted))
    (hvalue : ∀ value, isValue value → (State.value wanted).Waits value)
    (h : IsField name isValue text) : WaitsItem c text := by
  intro gap hgap
  obtain ⟨left, right, value, hl, hr, hv, rfl⟩ := h
  have hbehind := (State.idle_value wanted).waits hr (hvalue value hv)
  have hcolon : (State.colon wanted).Waits (':' :: (right ++ value)) :=
    .cons (State.unfinished_colon wanted) rfl hbehind
  exact waits_printName (State.unfinished_object gap hobject) (feed_quote hobject hbegin hgap)
    hname hkey ((State.idle_colon wanted).waits hl hcolon)

/-- **The fields of an object are waited through in any order** in which each is still awaited at its
turn. -/
theorem waitsItems_fields {σ φ : Type} (brackets : σ → Container) {fill : σ → φ → σ}
    (Awaits : σ → φ → Prop) {isItem : φ → List Char → Prop} {order : List φ}
    {items : List (List Char)} (h : List.Forall₂ isItem order items) (hnodup : order.Nodup)
    (hreads : ∀ s field item, Awaits s field → isItem field item →
      ReadsItem (brackets s) item (brackets (fill s field)))
    (hwaits : ∀ s field item, Awaits s field → isItem field item → WaitsItem (brackets s) item)
    (hfill : ∀ s field other, other ≠ field → Awaits s other → Awaits (fill s field) other) :
    ∀ s, (∀ field ∈ order, Awaits s field) →
      WaitsItems (brackets s) items (brackets (order.foldl fill s)) := by
  induction h with
  | nil => exact fun _ _ => .nil
  | @cons field item order items hfield _ ih =>
    intro s hs
    obtain ⟨hnew, hnodup⟩ := List.nodup_cons.mp hnodup
    have hawaits := hs field (List.mem_cons_self ..)
    refine .cons (hreads s field item hawaits hfield) (hwaits s field item hawaits hfield)
      (ih hnodup (fill s field) fun other hother => ?_)
    have hne : other ≠ field := fun he => hnew (he ▸ hother)
    exact hfill s field other hne (hs other (List.mem_cons_of_mem field hother))

end Tileboard.BoardFile
