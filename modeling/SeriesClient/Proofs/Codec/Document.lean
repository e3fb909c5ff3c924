import SeriesClient.Proofs.Codec.Brackets

/-! Documents read back from their texts. A reader of elements or members reads back a whole list or
object of them, so a document is read back by induction on how deep it may nest. Of its
floating-point numbers it is asked that each reads back by itself. -/

namespace SeriesClient.Json

mutual

def depth : Json → Nat
  | array items => depthItems items + 1
  | object members => depthMembers members + 1
  | null | bool _ | number _ | string _ => 0

def depthItems : List Json → Nat
  | [] => 0
  | item :: rest => max item.depth (depthItems rest)

def depthMembers : Members → Nat
  | [] => 0
  | (_, value) :: rest => max value.depth (depthMembers rest)

end

mutual

def reals : Json → List Float
  | number (.real x _) => [x]
  | array items => realsItems items
  | object members => realsMembers members
  | null | bool _ | number (.integer _ _) | string _ => []

def realsItems : List Json → List Float
  | [] => []
  | item :: rest => item.reals ++ realsItems rest

def realsMembers : Members → List Float
  | [] => []
  | (_, value) :: rest => value.reals ++ realsMembers rest

end

open Reader

/-- The text of the number, standing alone, is read as the number. -/
def ReadsBack (x : Float) : Prop :=
  ∀ h, readNumber (Glyph.ofChars (Number.real x h).chars) = .ok (.real x h, [])

/-- A document that nests no deeper than that, and whose numbers read back. -/
structure Readable (depth : Nat) (d : Json) : Prop where
  depth : d.depth ≤ depth
  reals : ∀ x ∈ d.reals, ReadsBack x

theorem readable_items_iff {n : Nat} {items : List Json} :
    (depthItems items ≤ n ∧ ∀ x ∈ realsItems items, ReadsBack x) ↔
      ∀ item ∈ items, Readable n item := by
  induction items with
  | nil => simp [depthItems, realsItems]
  | cons item items ih =>
    rw [List.forall_mem_cons, ← ih, depthItems, realsItems, List.forall_mem_append, Nat.max_le]
    constructor
    · rintro ⟨⟨hd, hds⟩, hr, hrs⟩
      exact ⟨⟨hd, hr⟩, hds, hrs⟩
    · rintro ⟨⟨hd, hr⟩, hds, hrs⟩
      exact ⟨⟨hd, hds⟩, hr, hrs⟩

theorem readable_members_iff {n : Nat} {members : Members} :
    (depthMembers members ≤ n ∧ ∀ x ∈ realsMembers members, ReadsBack x) ↔
      ∀ m ∈ members, Readable n m.2 := by
  induction members with
  | nil => simp [depthMembers, realsMembers]
  | cons m members ih =>
    rw [List.forall_mem_cons, ← ih, depthMembers, realsMembers, List.forall_mem_append, Nat.max_le]
    constructor
    · rintro ⟨⟨hd, hds⟩, hr, hrs⟩
      exact ⟨⟨hd, hr⟩, hds, hrs⟩
    · rintro ⟨⟨hd, hr⟩, hds, hrs⟩
      exact ⟨⟨hd, hds⟩, hr, hrs⟩

theorem readable_array_iff {n : Nat} {items : List Json} :
    Readable (n + 1) (.array items) ↔ ∀ item ∈ items, Readable n item := by
  rw [← readable_items_iff]
  exact ⟨fun h => ⟨Nat.le_of_succ_le_succ h.depth, h.reals⟩,
    fun h => ⟨Nat.succ_le_succ h.1, h.2⟩⟩

theorem readable_object_iff {n : Nat} {members : Members} :
    Readable (n + 1) (.object members) ↔ ∀ m ∈ members, Readable n m.2 := by
  rw [← readable_members_iff]
  exact ⟨fun h => ⟨Nat.le_of_succ_le_succ h.depth, h.reals⟩,
    fun h => ⟨Nat.succ_le_succ h.1, h.2⟩⟩

theorem not_readable_zero_array {items : List Json} : ¬ Readable 0 (.array items) := fun h =>
  Nat.not_succ_le_zero _ h.depth

theorem not_readable_zero_object {members : Members} : ¬ Readable 0 (.object members) := fun h =>
  Nat.not_succ_le_zero _ h.depth

namespace Reader

variable {α σ : Type}

theorem reads_number {n : Number} (h : ∀ x ∈ (number n).reals, ReadsBack x) :
    Reads readNumber n.chars n := by
  cases n with
  | integer n hfits => exact readNumber_local.reads (readNumber_integerChars hfits)
  | real x hfinite => exact readNumber_local.reads (h x (by simp [reals]) hfinite)

/-- A text of which a number is read begins with a minus sign or a digit. -/
theorem begins_of_reads_number {chars : List Char} {n : Number} (h : Reads readNumber chars n) :
    ∃ c cs, chars = c :: cs ∧ (c = '-' ∨ (Numeral.digit? (.char c)).isSome = true) := by
  obtain ⟨numeral, mid, hnumeral, -⟩ := bind_eq_ok_iff.1 (h [] ends_nil)
  cases chars with
  | nil => cases hnumeral
  | cons c cs =>
    refine ⟨c, cs, rfl, ?_⟩
    by_contra hc
    simp only [not_or, Bool.not_eq_true, Option.isSome_eq_false_iff, Option.isNone_iff_eq_none] at hc
    have hminus : ¬ some (Glyph.char c) = some (.char '-') := fun h =>
      hc.1 (Glyph.char.inj (Option.some.inj h))
    have hnumeral := (bind_peek (g := .char c)).symm.trans hnumeral
    simp only [hminus, if_false, decide_false] at hnumeral
    obtain ⟨whole, mid', hwhole, -⟩ := bind_eq_ok_iff.1 hnumeral
    have hwhole := (bind_peek (g := .char c)).symm.trans hwhole
    simp only [hc.2] at hwhole
    cases hwhole

theorem ne_of_begins_number {c d : Char} (hc : c = '-' ∨ (Numeral.digit? (.char c)).isSome = true)
    (hd : d ≠ '-' ∧ Numeral.digit? (.char d) = none) : c ≠ d := by
  rintro rfl
  rcases hc with rfl | hc
  · exact hd.1 rfl
  · simp [hd.2] at hc

theorem not_space_of_number {c : Char} (hc : c = '-' ∨ (Numeral.digit? (.char c)).isSome = true) :
    isSpace (.char c) = false := by
  have h1 : c ≠ ' ' := ne_of_begins_number hc (by decide)
  have h2 : c ≠ '\n' := ne_of_begins_number hc (by decide)
  have h3 : c ≠ '\t' := ne_of_begins_number hc (by decide)
  have h4 : c ≠ '\r' := ne_of_begins_number hc (by decide)
  simp [isSpace, h1, h2, h3, h4]

theorem inRange_of_number {c : Char} (hc : c = '-' ∨ (Numeral.digit? (.char c)).isSome = true) :
    (c = '-' || ('0' ≤ c && c ≤ '9')) = true := by
  rcases hc with rfl | hc
  · rfl
  · simp only [Numeral.digit?, Option.isSome_ite] at hc
    rw [hc, Bool.or_true]

theorem begins_chars {n : Nat} {d : Json} (h : Readable n d) : Begins d.chars := by
  cases d with
  | null => exact ⟨'n', _, rfl, rfl, by decide⟩
  | bool b =>
    cases b
    · exact ⟨'f', _, rfl, rfl, by decide⟩
    · exact ⟨'t', _, rfl, rfl, by decide⟩
  | number n =>
    obtain ⟨c, cs, hcs, hc⟩ := begins_of_reads_number (reads_number h.reals)
    exact ⟨c, cs, hcs, not_space_of_number hc, ne_of_begins_number hc (by decide)⟩
  | string s => exact ⟨'"', _, rfl, rfl, by decide⟩
  | array items => exact ⟨'[', _, rfl, rfl, by decide⟩
  | object members => exact ⟨'\x7b', _, rfl, rfl, by decide⟩

theorem itemChars_eq (items : List Json) : itemChars items = Source.commas (items.map chars) := by
  induction items with
  | nil => rfl
  | cons item items ih =>
    cases items with
    | nil => simp [itemChars, Source.commas]
    | cons next items =>
      rw [itemChars, ih]
      · simp [commas_cons, further]
      · exact List.cons_ne_nil _ _

def bareItems (items : List Json) : List Slot := items.map fun item => .bare item.chars

theorem ofChars_items (items : List Json) (rest : List Glyph) :
    Glyph.ofChars (itemChars items) ++ .char ']' :: rest = listText true [] (bareItems items) rest := by
  have htexts : (bareItems items).map Padded.chars = items.map chars := by
    simp [bareItems, Padded.bare, Padded.chars, blankChars]
  rw [listText, htexts, itemChars_eq]
  rfl

variable {item : Reader α} {items : List Json} {values : List α}

abbrev ReadsEach (item : Reader α) (items : List Json) (values : List α) : Prop :=
  List.Forall₂ (fun d a => Begins d.chars ∧ Reads item d.chars a) items values

theorem items_itemChars (h : ReadsEach item items values) (rest : List Glyph) :
    Reader.items item (Glyph.ofChars (itemChars items) ++ .char ']' :: rest) =
      .ok (values, .char ']' :: rest) := by
  rw [ofChars_items]
  exact items_of_reads (List.forall₂_map_left_iff.2 h) [] rest

def bareMember (m : String × Json) : Slot × Slot := (.bare (stringRest m.1), .bare m.2.chars)

theorem memberChars_eq (members : Members) :
    memberChars members = Source.commas (members.map fun m => memberText (bareMember m)) := by
  have htext (m : String × Json) : memberText (bareMember m) = stringChars m.1 ++ ':' :: m.2.chars := by
    simp [memberText, bareMember, Padded.bare, valueChars, blankChars, stringChars_eq]
  simp only [htext]
  induction members with
  | nil => rfl
  | cons m members ih =>
    cases members with
    | nil => simp [memberChars, Source.commas]
    | cons next members =>
      rw [memberChars, ih]
      · simp [commas_cons, further]
      · exact List.cons_ne_nil _ _

theorem ofChars_members (members : Members) (rest : List Glyph) :
    Glyph.ofChars (memberChars members) ++ .char '\x7d' :: rest =
      objectText true [] (members.map bareMember) rest := by
  rw [objectText, List.map_map, memberChars_eq]
  rfl

/-- Members that are taken one by one, and what this makes of the state. -/
inductive Takes (member : String → σ → Reader σ) : Members → σ → σ → Prop where
  | nil {s : σ} : Takes member [] s s
  | cons {name : String} {value : Json} {members : Members} {s s' s'' : σ}
      (hfirst : Reads (member name s) (':' :: value.chars) s')
      (hrest : Takes member members s' s'') : Takes member ((name, value) :: members) s s''

variable {member : String → σ → Reader σ} {members : Members} {s s' : σ}

theorem Takes.folds (h : Takes member members s s') :
    Folds member (members.map bareMember) s (some s') := by
  induction h with
  | nil => exact .nil
  | cons hfirst _ ih => exact .cons (readString_stringRest _) hfirst.decides ih

theorem members_memberChars (h : Takes member members s s') (rest : List Glyph) :
    Reader.members member s (Glyph.ofChars (memberChars members) ++ .char '\x7d' :: rest) =
      .ok (s', .char '\x7d' :: rest) := by
  rw [ofChars_members, ← outcome_eq_some_iff, outcome_members h.folds, Option.map_some]

variable {list object : Reader Json}

theorem reads_null : Reads (valueWith list object) (chars .null) .null := by
  intro rest _
  refine (bind_token (g := .char 'n') rfl).trans ?_
  dsimp only
  rw [if_pos rfl]
  exact bind_advance.trans <| bind_ok (expectRest_ofChars ['u', 'l', 'l'] rest)

theorem reads_bool (b : Bool) : Reads (valueWith list object) (chars (.bool b)) (.bool b) := by
  intro rest _
  cases b with
  | false =>
    refine (bind_token (g := .char 'f') rfl).trans ?_
    dsimp only
    rw [if_neg (by decide), if_neg (by decide), if_pos rfl]
    exact bind_advance.trans <| bind_ok (expectRest_ofChars ['a', 'l', 's', 'e'] rest)
  | true =>
    refine (bind_token (g := .char 't') rfl).trans ?_
    dsimp only
    rw [if_neg (by decide), if_pos rfl]
    exact bind_advance.trans <| bind_ok (expectRest_ofChars ['r', 'u', 'e'] rest)

theorem reads_string {cs : List Char} {s : String} (h : Spells cs s) :
    Reads (valueWith list object) ('"' :: cs) (.string s) := by
  intro rest _
  refine (bind_token (g := .char '"') rfl).trans ?_
  dsimp only
  rw [if_neg (by decide), if_neg (by decide), if_neg (by decide), if_neg (by decide), if_pos rfl]
  exact bind_advance.trans <| bind_ok (h rest)

theorem valueWith_list (rest : List Glyph) :
    valueWith list object (.char '[' :: rest) = list (.char '[' :: rest) := by
  refine (bind_token (g := .char '[') rfl).trans ?_
  dsimp only
  rw [if_neg (by decide), if_neg (by decide), if_neg (by decide), if_neg (by decide),
    if_neg (by decide), if_pos rfl]

theorem valueWith_object (rest : List Glyph) :
    valueWith list object (.char '\x7b' :: rest) = object (.char '\x7b' :: rest) := by
  refine (bind_token (g := .char '\x7b') rfl).trans ?_
  dsimp only
  rw [if_neg (by decide), if_neg (by decide), if_neg (by decide), if_neg (by decide),
    if_neg (by decide), if_neg (by decide), if_pos rfl]

theorem reads_numberChars {chars : List Char} {n : Number} (h : Reads readNumber chars n) :
    Reads (valueWith list object) chars (.number n) := by
  intro rest hrest
  have hread := h rest hrest
  obtain ⟨c, cs, rfl, hc⟩ := begins_of_reads_number h
  refine (bind_token (g := .char c) (not_space_of_number hc)).trans ?_
  dsimp only
  rw [if_neg (ne_of_begins_number hc (by decide)), if_neg (ne_of_begins_number hc (by decide)),
    if_neg (ne_of_begins_number hc (by decide)), if_pos (inRange_of_number hc)]
  exact bind_ok hread

theorem colon_cons (rest : List Glyph) : colon (.char ':' :: rest) = .ok ((), rest) := rfl

theorem endList_cons (rest : List Glyph) : endList (.char ']' :: rest) = .ok ((), rest) := rfl

theorem endObject_cons (rest : List Glyph) : endObject (.char '\x7d' :: rest) = .ok ((), rest) := rfl

theorem ofChars_array (items : List Json) (rest : List Glyph) :
    Glyph.ofChars (chars (.array items)) ++ rest =
      .char '[' :: (Glyph.ofChars (itemChars items) ++ .char ']' :: rest) := by
  simp [chars, Glyph.ofChars]

theorem ofChars_object (members : Members) (rest : List Glyph) :
    Glyph.ofChars (chars (.object members)) ++ rest =
      .char '\x7b' :: (Glyph.ofChars (memberChars members) ++ .char '\x7d' :: rest) := by
  simp [chars, Glyph.ofChars]

theorem readValue_eq (n : Nat) : ∃ list object, readValue n = valueWith list object := by
  cases n <;> exact ⟨_, _, rfl⟩

theorem skips_readValue (n : Nat) : Skips (readValue n) := by
  obtain ⟨list, object, heq⟩ := readValue_eq n
  rw [heq]
  exact skips_token

variable {k : Nat}

theorem readValue_list {slots : List Slot} {vs : List Json}
    (h : List.Forall₂ (fun (s : Slot) v => Begins s.inside ∧ Reads (readValue k) s.inside v) slots vs)
    (gap : List Blank) (rest : List Glyph) :
    readValue (k + 1) (.char '[' :: listText true gap slots rest) = .ok (.array vs, rest) := by
  rw [readValue, valueWith_list, bind_advance]
  exact (bind_ok (items_of_reads h gap rest)).trans (bind_ok (endList_cons rest))

abbrev ReadsMembers (r : Reader Json) (slots : List (Slot × Slot)) (ms : Members) : Prop :=
  List.Forall₂ (fun s m => Spells s.1.inside m.1 ∧ Reads r s.2.inside m.2) slots ms

/-- Members kept as they are read, the last one first. -/
theorem folds_reverse {reader : Reader Json} {slots : List (Slot × Slot)} {ms : Members}
    (hskips : Skips reader) (h : ReadsMembers reader slots ms) (done : Members) :
    Folds (fun name ms => do
      colon
      let v ← reader
      pure ((name, v) :: ms)) slots done (some (ms.reverse ++ done)) := by
  induction h generalizing done with
  | nil => exact .nil
  | cons hm _ ih =>
    rw [List.reverse_cons, List.append_assoc]
    exact .cons hm.1 (decides_colon hskips.bind (hm.2.decides.map _)) (ih _)

theorem readValue_object {slots : List (Slot × Slot)} {ms : Members}
    (h : ReadsMembers (readValue k) slots ms) (gap : List Blank) (rest : List Glyph) :
    readValue (k + 1) (.char '\x7b' :: objectText true gap slots rest) = .ok (.object ms, rest) := by
  have hread := outcome_eq_some_iff.1 (outcome_members (folds_reverse (skips_readValue k) h []) gap rest)
  rw [readValue, valueWith_object, bind_advance]
  refine (bind_ok hread).trans ((bind_ok (endObject_cons rest)).trans ?_)
  rw [List.append_nil, List.reverse_reverse]
  rfl

/-- A document within the limit is read back from its text. -/
theorem reads_readValue {n : Nat} {d : Json} (h : Readable n d) : Reads (readValue n) d.chars d := by
  induction n using Nat.strongRecOn generalizing d with
  | ind n ih =>
    obtain ⟨list, object, heq⟩ := readValue_eq n
    cases d with
    | null => exact heq ▸ reads_null
    | bool b => exact heq ▸ reads_bool b
    | number n => exact heq ▸ reads_numberChars (reads_number h.reals)
    | string s => exact heq ▸ reads_string (readString_stringRest s)
    | array items =>
      cases n with
      | zero => exact absurd h not_readable_zero_array
      | succ n =>
        have hitems := readable_array_iff.1 h
        have heach : ReadsEach (readValue n) items items := List.forall₂_same.2 fun d hd =>
          ⟨begins_chars (hitems d hd), ih n (Nat.lt_succ_self n) (hitems d hd)⟩
        intro rest _
        rw [ofChars_array, ofChars_items]
        exact readValue_list (List.forall₂_map_left_iff.2 heach) [] rest
    | object members =>
      cases n with
      | zero => exact absurd h not_readable_zero_object
      | succ n =>
        have hmembers := readable_object_iff.1 h
        have heach : ReadsMembers (readValue n) (members.map bareMember) members :=
          List.forall₂_map_left_iff.2 (List.forall₂_same.2 fun m hm =>
            ⟨readString_stringRest m.1, ih n (Nat.lt_succ_self n) (hmembers m hm)⟩)
        intro rest _
        rw [ofChars_object, ofChars_members]
        exact readValue_object heach [] rest

end Reader

end SeriesClient.Json
