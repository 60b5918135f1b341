import Tileboard.Proofs.FileSpelling

/-!
What the reader of board files does with spaces, numbers, strings and brackets.

1. **Runs** — the reader stands still on spaces (`Idle.feedAll_spaces`).  It reads a value, or an item
   between brackets, if it stands behind an item of the right brackets afterwards (`Reads`).  A
   number shows that it has ended only by the character behind it, so all this is said about texts
   that go on with a character that ends a value (`Ends`).

2. **Numbers and strings** — the digits of a number scan to its value (`feedAll_write`), and a text
   without quotation marks and escapes to itself (`feedAll_string`).

3. **Brackets (`feedAll_bracketed`)** — items that are read one after the other are read from between
   brackets, with all commas and spaces.  That is one induction for lists and objects alike.

4. **Lists and objects** — members are read one by one (`readsItems_list`), and fields in any order
   (`readsItems_fields`).
-/

namespace Tileboard.BoardFile

open Text

/-! ## Runs -/

namespace State

variable {s s' : State} {c : Char} {cs gap : List Char}

theorem feedAll_cons (s : State) (c : Char) (cs : List Char) :
    s.feedAll (c :: cs) = (s.feed c).bind fun s => s.feedAll cs :=
  rfl

theorem feedAll_cons_of_feed (h : s.feed c = .ok s') : s.feedAll (c :: cs) = s'.feedAll cs := by
  rw [feedAll_cons, h]
  rfl

/-- Spaces may stand here. -/
def Idle (s : State) : Prop :=
  ∀ c, isSpace c = true → s.feed c = .ok s

theorem idle_value (wanted : Wanted) : Idle (.value wanted) :=
  fun _ h => if_pos h

theorem idle_inside (gap : Gap) (c : Container) : Idle (.inside gap c) :=
  fun _ h => if_pos h

theorem idle_colon (wanted : Wanted) : Idle (.colon wanted) :=
  fun _ h => if_pos h

theorem idle_done (file : BoardFile) : Idle (.done file) :=
  fun _ h => if_pos h

/-- **The reader stands still on spaces.** -/
theorem Idle.feedAll_spaces (hs : Idle s) (h : Spaces gap) : s.feedAll gap = .ok s := by
  induction gap with
  | nil => rfl
  | cons c gap ih =>
    rw [feedAll_cons_of_feed (hs c (h c (List.mem_cons_self ..)))]
    exact ih fun d hd => h d (List.mem_cons_of_mem c hd)

theorem Idle.feedAll (hs : Idle s) (h : Spaces gap) (rest : List Char) :
    s.feedAll (gap ++ rest) = s.feedAll rest := by
  rw [feedAll_append, hs.feedAll_spaces h]
  rfl

end State

/-- Whether a value that stands before the character ends there. -/
def endsValue (c : Char) : Bool :=
  isSpace c || c == ',' || c == ']' || c == '\x7d'

/-- The text goes on with a character that ends a value. -/
def Ends (rest : List Char) : Prop :=
  ∃ c tail, rest = c :: tail ∧ endsValue c = true

theorem ends_cons {c : Char} {tail : List Char} (h : endsValue c = true) : Ends (c :: tail) :=
  ⟨c, tail, rfl, h⟩

theorem ends_append_of_spaces {gap rest : List Char} (h : Spaces gap) (hrest : Ends rest) :
    Ends (gap ++ rest) := by
  cases gap with
  | nil => exact hrest
  | cons c gap =>
    refine ends_cons ?_
    simp [endsValue, h c (List.mem_cons_self ..)]

/-- Behind the text, the reader stands behind an item of the brackets. -/
def State.Reads (s : State) (text : List Char) (c : Container) : Prop :=
  ∀ rest, Ends rest → s.feedAll (text ++ rest) = (State.inside .afterItem c).feedAll rest

/-- Wherever an item may stand between the brackets, the text is read as one. -/
def ReadsItem (c : Container) (item : List Char) (c' : Container) : Prop :=
  ∀ gap, gap ≠ .afterItem → (State.inside gap c).Reads item c'

/-- The texts are read as items, one after the other. -/
inductive ReadsItems : Container → List (List Char) → Container → Prop
  | nil {c : Container} : ReadsItems c [] c
  | cons {c c' c'' : Container} {item : List Char} {items : List (List Char)}
      (first : ReadsItem c item c') (rest : ReadsItems c' items c'') :
      ReadsItems c (item :: items) c''

/-! ## Numbers -/

namespace NumberScan

/-- The scan behind the digits of a number without sign, fraction and exponent. -/
def whole (n : Nat) : NumberScan :=
  { signed false with part := if n = 0 then .zero else .whole, significand := n }

theorem step_signed_digit {d : Nat} (hd : d < 10) :
    (signed false).step (Numeral.digit d) = .more (whole d) := by
  have h : ∀ k : Fin 10, (signed false).step (Numeral.digit k) = .more (whole k) := by decide
  exact h ⟨d, hd⟩

/-- A digit counts while the significand fits in 64 bits. -/
theorem addWhole_of_lt {s : NumberScan} {c : Char} (hfull : s.full = false)
    (h : 10 * s.significand + Numeral.value c < Nat.pow 2 64) :
    s.addWhole c =
      { s with part := .whole, significand := 10 * s.significand + Numeral.value c } := by
  have hfits : ¬ significandLimit ≤ 10 * s.significand + Numeral.value c := Nat.not_le.mpr h
  exact if_neg (by simp [hfull, hfits])

theorem whole_of_pos {n : Nat} (h : 0 < n) :
    whole n = { signed false with part := .whole, significand := n } := by
  rw [whole, if_neg (Nat.pos_iff_ne_zero.mp h)]

theorem step_whole_digit {n d : Nat} (hn : 0 < n) (hd : d < 10) (h : 10 * n + d < Nat.pow 2 64) :
    (whole n).step (Numeral.digit d) = .more (whole (10 * n + d)) := by
  rw [← Numeral.value_digit hd] at h
  have hadd := addWhole_of_lt (s := { signed false with part := .whole, significand := n }) rfl h
  rw [whole_of_pos hn, whole_of_pos (by omega)]
  simp only [step, Numeral.digit_isDigit hd, if_true, hadd, Numeral.value_digit hd]

/-- A character that ends a value does not continue a number. -/
theorem step_whole_of_ends {n : Nat} {c : Char} (h : endsValue c = true) :
    (whole n).step c = .stop := by
  have hchar : c.isDigit = false ∧ c ≠ '.' ∧ c ≠ 'e' ∧ c ≠ 'E' := by
    simp only [endsValue, isSpace, Bool.or_eq_true, beq_iff_eq] at h
    rcases h with ((((((h | h) | h) | h) | h) | h) | h) <;> subst h <;> decide
  unfold step whole
  by_cases hn : n = 0
  · simp [hn, hchar, leaveDigits]
  · simp [hn, hchar, leaveDigits]

theorem value_whole (n : Nat) : (whole n).value = .ok (.integer n) := by
  by_cases hn : n = 0
  · subst hn
    rfl
  · simp [whole, value, hn, signed]

end NumberScan

theorem feed_first_digit {wanted : Wanted} {use : NumberUse}
    {otherwise : Char → Except Fault State}
    (hstart : ∀ c, wanted.start c = beginNumber use otherwise c) {d : Nat} (hd : d < 10) :
    (State.value wanted).feed (Numeral.digit d) = .ok (.number (.whole d) use) := by
  have hdigit : ∀ k : Fin 10, Numeral.digit k ≠ '-' ∧ isSpace (Numeral.digit k) = false := by
    decide
  obtain ⟨hminus, hspace⟩ := hdigit ⟨d, hd⟩
  simp only [State.feed, hspace, hstart, beginNumber, if_neg hminus,
    NumberScan.step_signed_digit hd]
  rfl

theorem feed_next_digit {n d : Nat} (hn : 0 < n) (hd : d < 10) (h : 10 * n + d < Nat.pow 2 64)
    (use : NumberUse) :
    (State.number (.whole n) use).feed (Numeral.digit d) =
      .ok (.number (.whole (10 * n + d)) use) := by
  simp only [State.feed, NumberScan.step_whole_digit hn hd h]

/-- **The digits of a number that 64 bits hold scan to that number.**  The induction is on the number,
because the digits are written from the last to the first. -/
theorem feedAll_write {wanted : Wanted} {use : NumberUse} {otherwise : Char → Except Fault State}
    (hstart : ∀ c, wanted.start c = beginNumber use otherwise c) :
    ∀ (n : Nat), n < Nat.pow 2 64 → ∀ rest,
      (State.value wanted).feedAll (Numeral.write n ++ rest) =
        (State.number (.whole n) use).feedAll rest := by
  intro n
  induction n using Nat.strongRecOn with
  | _ n ih =>
    intro hn rest
    by_cases hten : n < 10
    · rw [Numeral.write_of_lt hten]
      exact State.feedAll_cons_of_feed (feed_first_digit hstart hten)
    · have hlast : n % 10 < 10 := Nat.mod_lt n (by decide)
      have hsum : 10 * (n / 10) + n % 10 = n := Nat.div_add_mod n 10
      have hfeed := feed_next_digit (by omega : 0 < n / 10) hlast (by rwa [hsum]) use
      rw [hsum] at hfeed
      rw [Numeral.write_of_le (by omega), List.append_assoc, ih (n / 10) (by omega) (by omega)]
      exact State.feedAll_cons_of_feed hfeed

/-- A number is read if its value is accepted. -/
theorem reads_write {wanted : Wanted} {use : NumberUse} {otherwise : Char → Except Fault State}
    (hstart : ∀ c, wanted.start c = beginNumber use otherwise c) {n : Nat} (hn : n < Nat.pow 2 64)
    {c : Container} (haccept : use.accept (.whole n) = .ok c) :
    (State.value wanted).Reads (Numeral.write n) c := by
  rintro _ ⟨ch, tail, rfl, hch⟩
  -- the character that ends the number is read a second time, behind the item
  have hfeed : (State.number (.whole n) use).feed ch = (State.inside .afterItem c).feed ch := by
    simp only [State.feed, NumberScan.step_whole_of_ends hch, haccept]
    rfl
  rw [feedAll_write hstart n hn, State.feedAll_cons, State.feedAll_cons, hfeed]

theorem bounded_of_lt {limit n : Nat} (h : n < limit) (expected : Expected) :
    bounded limit expected (.integer n) = .ok n :=
  if_pos h

/-! ## Strings and literals -/

/-- Whether the character stands for itself in a string. -/
def isVerbatim (c : Char) : Bool :=
  c != '"' && c != '\\' && 0x20 ≤ c.toNat

/-- The characters stand for themselves in a string. -/
def Verbatim (cs : List Char) : Prop :=
  cs.all isVerbatim = true

theorem verbatim_key (kind : Kind) : Verbatim kind.key.toList := by
  cases kind <;> rfl

theorem verbatim_fileField (field : FileField) : Verbatim field.name.toList := by
  cases field <;> rfl

theorem verbatim_tokenField (field : TokenField) : Verbatim field.name.toList := by
  cases field <;> rfl

theorem step_of_isVerbatim {c : Char} (h : isVerbatim c = true) (reversed : List Char) :
    StringScan.step ⟨true, reversed, .plain⟩ c = .ok (.more ⟨true, c :: reversed, .plain⟩) := by
  simp only [isVerbatim, Bool.and_eq_true, bne_iff_ne, decide_eq_true_eq] at h
  obtain ⟨⟨hquote, hescape⟩, hcontrol⟩ := h
  simp only [StringScan.step, if_neg hquote, if_neg hescape, if_neg (Nat.not_lt.mpr hcontrol)]
  rfl

theorem feedAll_stringFrom {cs : List Char} (h : Verbatim cs) (use : StringUse) (rest : List Char) :
    ∀ reversed, (State.string ⟨true, reversed, .plain⟩ use).feedAll (cs ++ '"' :: rest) =
      (use.accept (String.ofList (reversed.reverse ++ cs))).bind fun s => s.feedAll rest := by
  induction cs with
  | nil =>
    intro reversed
    rw [List.append_nil]
    rfl
  | cons c cs ih =>
    intro reversed
    rw [Verbatim, List.all_cons, Bool.and_eq_true] at h
    have hfeed : (State.string ⟨true, reversed, .plain⟩ use).feed c =
        .ok (.string ⟨true, c :: reversed, .plain⟩ use) := by
      rw [State.feed, step_of_isVerbatim h.1]
      rfl
    rw [List.cons_append, State.feedAll_cons_of_feed hfeed, ih h.2]
    simp

/-- **A string without quotation marks, escapes and control characters is read as it stands.** -/
theorem feedAll_string {name : String} (h : Verbatim name.toList) (use : StringUse)
    (rest : List Char) :
    (State.string (.start true) use).feedAll (name.toList ++ '"' :: rest) =
      (use.accept name).bind fun s => s.feedAll rest := by
  have hall := feedAll_stringFrom h use rest []
  rwa [List.reverse_nil, List.nil_append, String.ofList_toList] at hall

theorem feedAll_printName {s : State} {use : StringUse} {name : String}
    (hs : s.feed '"' = .ok (.string (.start true) use)) (h : Verbatim name.toList)
    (rest : List Char) :
    s.feedAll (printName name ++ rest) = (use.accept name).bind fun s => s.feedAll rest := by
  have happend : printName name ++ rest = '"' :: (name.toList ++ '"' :: rest) := by
    simp [printName]
  rw [happend, State.feedAll_cons_of_feed hs]
  exact feedAll_string h use rest

theorem reads_kind (t : OpenToken) (kind : Kind) :
    (State.value (.kind t)).Reads (printName kind.key)
      (.token { t with kind := some kind }) := by
  intro rest _
  rw [feedAll_printName rfl (verbatim_key kind), StringUse.accept, Kind.ofKey?_key]
  rfl

theorem reads_null (r : OpenRow) :
    (State.value (.cell r)).Reads "null".toList (.row (r.push none)) :=
  fun _ _ => rfl

/-! ## Brackets -/

theorem feed_comma (c : Container) :
    (State.inside .afterItem c).feed ',' = .ok (.inside .afterComma c) := by
  by_cases h : c.isObject = true
  · simp [State.feed, Container.feed, Container.feedObject, isSpace, h]
  · simp [State.feed, Container.feed, Container.feedList, isSpace, h]

/-- The bracket that closes the brackets. -/
def Container.closing (c : Container) : Char :=
  if c.isObject then '\x7d' else ']'

theorem feed_closing {gap : Gap} (hgap : gap ≠ .afterComma) (c : Container) :
    (State.inside gap c).feed c.closing = c.close := by
  by_cases h : c.isObject = true
  · cases gap with
    | afterComma => exact absurd rfl hgap
    | first | afterItem =>
      simp [State.feed, Container.feed, Container.closing, Container.feedObject, isSpace, h]
  · cases gap with
    | afterComma => exact absurd rfl hgap
    | first | afterItem =>
      simp [State.feed, Container.feed, Container.closing, Container.feedList, isSpace, h]

theorem endsValue_closing (c : Container) : endsValue c.closing = true := by
  unfold Container.closing
  split <;> rfl

/-- **Items are read through the commas and spaces between them.**  The induction is on the text, and
each comma brings the reader back to a place where an item may stand. -/
theorem reads_separated {items : List (List Char)} {content : List Char}
    (hsep : Separated items content) (hitems : items ≠ []) :
    ∀ {c c' : Container} {gap : Gap}, ReadsItems c items c' → gap ≠ .afterItem →
      (State.inside gap c).Reads content c' := by
  induction hsep with
  | none _ => exact absurd rfl hitems
  | @last item left right hl hr =>
    intro c c' gap hall hgap rest hrest
    cases hall with | cons hfirst hnone => ?_
    cases hnone
    rw [List.append_assoc, (State.idle_inside gap c).feedAll hl, List.append_assoc,
      hfirst gap hgap _ (ends_append_of_spaces hr hrest)]
    exact (State.idle_inside .afterItem c').feedAll hr rest
  | @more item next left right tail items hl hr _ ih =>
    intro c c' gap hall hgap rest hrest
    cases hall with | @cons _ c₁ _ _ _ hfirst hmore => ?_
    have hends : Ends (right ++ ',' :: (tail ++ rest)) :=
      ends_append_of_spaces hr (ends_cons rfl)
    rw [List.append_assoc, (State.idle_inside gap c).feedAll hl, List.append_assoc,
      List.append_assoc, List.cons_append, hfirst gap hgap _ hends,
      (State.idle_inside .afterItem c₁).feedAll hr, State.feedAll_cons_of_feed (feed_comma c₁)]
    exact ih (by simp) hmore (by decide) rest hrest

/-- **Brackets are read from the opening to the closing one**, whose effect is that of `close`. -/
theorem feedAll_bracketed {s : State} {c c' : Container} {openBracket : Char}
    {items : List (List Char)} {text : List Char}
    (hopen : s.feed openBracket = .ok (.inside .first c)) (hall : ReadsItems c items c')
    (h : Bracketed openBracket c'.closing items text) (rest : List Char) :
    s.feedAll (text ++ rest) = c'.close.bind fun s => s.feedAll rest := by
  obtain ⟨content, hsep, rfl⟩ := h
  have happend : openBracket :: (content ++ [c'.closing]) ++ rest =
      openBracket :: (content ++ c'.closing :: rest) := by simp
  rw [happend, State.feedAll_cons_of_feed hopen]
  cases items with
  | nil =>
    cases hsep with | none hgap => ?_
    cases hall
    rw [(State.idle_inside .first c).feedAll hgap, State.feedAll_cons, feed_closing (by decide)]
  | cons item items =>
    -- the closing bracket is what ends the last item, should it be a number
    rw [reads_separated hsep (by simp) hall (by decide) _ (ends_cons (endsValue_closing c')),
      State.feedAll_cons, feed_closing (by decide)]

/-! ## Lists -/

/-- The text begins with a character of a value: no space, and not the end of a list. -/
def Begins (text : List Char) : Prop :=
  ∃ c tail, text = c :: tail ∧ isSpace c = false ∧ c ≠ ']'

/-- The first character of an item of a list is that of the value that the list wants. -/
theorem feed_member {c : Container} {wanted : Wanted} {gap : Gap} {ch : Char}
    (hlist : c.isObject = false) (hitem : c.item? = some wanted) (hgap : gap ≠ .afterItem)
    (hspace : isSpace ch = false) (hclose : ch ≠ ']') :
    (State.inside gap c).feed ch = (State.value wanted).feed ch := by
  cases gap with
  | afterItem => exact absurd rfl hgap
  | first | afterComma =>
    simp [State.feed, Container.feed, Container.feedList, hspace, hlist, hitem, hclose]

/-- A value is read as an item of a list. -/
theorem readsItem_of_value {c c' : Container} {wanted : Wanted} {text : List Char}
    (hlist : c.isObject = false) (hitem : c.item? = some wanted) (hbegins : Begins text)
    (h : (State.value wanted).Reads text c') : ReadsItem c text c' := by
  intro gap hgap rest hrest
  obtain ⟨ch, tail, rfl, hspace, hclose⟩ := hbegins
  rw [← h rest hrest, List.cons_append, State.feedAll_cons, State.feedAll_cons,
    feed_member hlist hitem hgap hspace hclose]

/-- **The members of a list are read one by one.** -/
theorem readsItems_list {σ α : Type} (brackets : σ → Container) {push : σ → α → σ}
    {isItem : α → List Char → Prop} {members : List α} {items : List (List Char)}
    (h : List.Forall₂ isItem members items)
    (hitem : ∀ s, ∀ a ∈ members, ∀ item, isItem a item →
      ReadsItem (brackets s) item (brackets (push s a))) :
    ∀ s, ReadsItems (brackets s) items (brackets (members.foldl push s)) := by
  induction h with
  | nil => exact fun _ => .nil
  | @cons a item members items ha _ ih =>
    intro s
    have hrest := ih fun s b hb => hitem s b (List.mem_cons_of_mem a hb)
    exact .cons (hitem s a (List.mem_cons_self ..) item ha) (hrest (push s a))

/-! ## Objects -/

/-- A quotation mark begins the name of a field. -/
theorem feed_quote {c : Container} {use : StringUse} {gap : Gap} (hobject : c.isObject = true)
    (hbegin : c.beginKey = .string (.start true) use) (hgap : gap ≠ .afterItem) :
    (State.inside gap c).feed '"' = .ok (.string (.start true) use) := by
  cases gap with
  | afterItem => exact absurd rfl hgap
  | first | afterComma =>
    simp [State.feed, Container.feed, Container.feedObject, isSpace, hobject, hbegin]

/-- A field is read as an item of an object. -/
theorem readsItem_field {c c' : Container} {wanted : Wanted} {use : StringUse} {name : String}
    {isValue : List Char → Prop} {text : List Char} (hobject : c.isObject = true)
    (hbegin : c.beginKey = .string (.start true) use) (hname : Verbatim name.toList)
    (hkey : use.accept name = .ok (.colon wanted))
    (hvalue : ∀ value, isValue value → (State.value wanted).Reads value c')
    (h : IsField name isValue text) : ReadsItem c text c' := by
  intro gap hgap rest hrest
  obtain ⟨left, right, value, hl, hr, hv, rfl⟩ := h
  have hquote := feed_quote hobject hbegin hgap
  have hcolon : (State.colon wanted).feed ':' = .ok (.value wanted) := rfl
  rw [List.append_assoc, feedAll_printName hquote hname, hkey]
  show (State.colon wanted).feedAll (left ++ ':' :: (right ++ value) ++ rest) = _
  rw [List.append_assoc, (State.idle_colon wanted).feedAll hl, List.cons_append,
    State.feedAll_cons_of_feed hcolon, List.append_assoc, (State.idle_value wanted).feedAll hr]
  exact hvalue value hv rest hrest

/-- **The fields of an object are read in any order** in which each is still awaited at its turn, and
filling in one leaves the others awaited. -/
theorem readsItems_fields {σ φ : Type} (brackets : σ → Container) {fill : σ → φ → σ}
    (Awaits : σ → φ → Prop) {isItem : φ → List Char → Prop} {order : List φ}
    {items : List (List Char)} (h : List.Forall₂ isItem order items) (hnodup : order.Nodup)
    (hitem : ∀ s field item, Awaits s field → isItem field item →
      ReadsItem (brackets s) item (brackets (fill s field)))
    (hfill : ∀ s field other, other ≠ field → Awaits s other → Awaits (fill s field) other) :
    ∀ s, (∀ field ∈ order, Awaits s field) →
      ReadsItems (brackets s) items (brackets (order.foldl fill s)) := by
  induction h with
  | nil => exact fun _ _ => .nil
  | @cons field item order items hfield _ ih =>
    intro s hs
    obtain ⟨hnew, hnodup⟩ := List.nodup_cons.mp hnodup
    have hfirst := hitem s field item (hs field (List.mem_cons_self ..)) hfield
    refine .cons hfirst (ih hnodup (fill s field) fun other hother => ?_)
    have hne : other ≠ field := fun he => hnew (he ▸ hother)
    exact hfill s field other hne (hs other (List.mem_cons_of_mem field hother))

end Tileboard.BoardFile
