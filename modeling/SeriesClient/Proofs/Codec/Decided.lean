import SeriesClient.Proofs.Codec.Passed
import SeriesClient.Proofs.Codec.Record
import SeriesClient.Proofs.Codec.Ordered

/-! What readers make of sources, whether they can read them or not. Which failure it is that comes of
a text that cannot be read is left out of account, so a reader of a list of records can be compared with
a function of the list that fails in other words. -/

namespace SeriesClient.Json

namespace Source

def slot (item : Padded Source) : Reader.Slot := item.map chars

def memberSlot (m : Padded Spelling × Padded Source) : Reader.Slot × Reader.Slot :=
  (m.1.map Spelling.rest, slot m.2)

variable {n : Nat} {v : Json}

/-- The source stands for the document, which nests no deeper than that. -/
structure Stands (n : Nat) (t : Source) (v : Json) : Prop where
  value : t.value? none = some v
  depth : v.depth ≤ n

abbrev StandEach (n : Nat) (items : List (Padded Source)) (vs : List Json) : Prop :=
  List.Forall₂ (fun item v => Stands n item.inside v) items vs

abbrev StandMembers (n : Nat) (members : List (Padded Spelling × Padded Source)) (ms : Members) : Prop :=
  List.Forall₂ (fun m m' => m.1.inside.text? none = some m'.1 ∧ Stands n m.2.inside m'.2) members ms

theorem stands_items {items : List (Padded Source)} {vs : List Json}
    (h : itemValues? none items = some vs) (hdepth : depthItems vs ≤ n) : StandEach n items vs := by
  induction items generalizing vs with
  | nil =>
    obtain rfl := Option.some.inj h
    exact .nil
  | cons item items ih =>
    obtain ⟨v, hv, vs', hvs, rfl⟩ : ∃ v, item.inside.value? none = some v ∧
        ∃ vs', itemValues? none items = some vs' ∧ v :: vs' = vs := by
      simpa [itemValues?, Option.bind_eq_some_iff] using h
    obtain ⟨hd, hds⟩ := Nat.max_le.1 hdepth
    exact .cons ⟨hv, hd⟩ (ih hvs hds)

theorem stands_members {members : List (Padded Spelling × Padded Source)} {ms : Members}
    (h : memberValues? none members = some ms) (hdepth : depthMembers ms ≤ n) :
    StandMembers n members ms := by
  induction members generalizing ms with
  | nil =>
    obtain rfl := Option.some.inj h
    exact .nil
  | cons m members ih =>
    obtain ⟨name, hname, v, hv, ms', hms, rfl⟩ : ∃ name, m.1.inside.text? none = some name ∧
        ∃ v, m.2.inside.value? none = some v ∧
          ∃ ms', memberValues? none members = some ms' ∧ (name, v) :: ms' = ms := by
      simpa [memberValues?, Option.bind_eq_some_iff] using h
    obtain ⟨hd, hds⟩ := Nat.max_le.1 hdepth
    exact .cons ⟨hname, hv, hd⟩ (ih hms hds)

theorem stands_array {gap : List Blank} {items : List (Padded Source)}
    (h : Stands n (.array gap items) v) :
    ∃ k vs, n = k + 1 ∧ v = .array vs ∧ StandEach k items vs := by
  obtain ⟨vs, hvs, rfl⟩ := Option.map_eq_some_iff.1 h.value
  obtain ⟨k, rfl⟩ : ∃ k, n = k + 1 :=
    Nat.exists_eq_add_one_of_ne_zero (Nat.ne_of_gt (Nat.zero_lt_of_lt h.depth))
  exact ⟨k, vs, rfl, rfl, stands_items hvs (Nat.le_of_succ_le_succ h.depth)⟩

theorem stands_object {gap : List Blank} {members : List (Padded Spelling × Padded Source)}
    (h : Stands n (.object gap members) v) :
    ∃ k ms, n = k + 1 ∧ v = .object ms ∧ StandMembers k members ms := by
  obtain ⟨ms, hms, rfl⟩ := Option.map_eq_some_iff.1 h.value
  obtain ⟨k, rfl⟩ : ∃ k, n = k + 1 :=
    Nat.exists_eq_add_one_of_ne_zero (Nat.ne_of_gt (Nat.zero_lt_of_lt h.depth))
  exact ⟨k, ms, rfl, rfl, stands_members hms (Nat.le_of_succ_le_succ h.depth)⟩

end Source

namespace Reader

open Source (Stands slot memberSlot)

variable {α β σ : Type} {r : Reader α} {f : α → Reader β} {text rest : List Glyph} {found : Option α}

/-- What is of the wrong kind is not read, whatever else may be wrong with it. -/
theorem outcome_wrongType (expected : String) : outcome (wrongType expected : Reader α) text = none := by
  rw [wrongType, outcome, bind_peek_head]
  cases text with
  | nil => rfl
  | cons g text =>
    cases g with
    | stray width => rfl
    | char c =>
      dsimp only [List.head?_cons]
      split_ifs
      · exact outcome_bind_none fun _ _ => outcome_bind_none fun _ _ => rfl
      · exact outcome_bind_none fun _ _ => outcome_bind_none fun _ _ => rfl
      · exact outcome_bind_none fun _ _ => outcome_bind_none fun _ _ => rfl
      · exact outcome_bind_none fun _ _ => rfl
      · exact outcome_bind_none fun _ _ => outcome_bind_none fun _ _ => rfl
      · rfl
      · rfl
      · rfl

theorem wrongType_ne_ok {expected : String} {p : α × List Glyph} :
    (wrongType expected : Reader α) text ≠ .ok p := by
  rw [ne_eq, ← outcome_eq_some_iff, outcome_wrongType]
  nofun

variable {first : Bool} {gap : List Blank} {items : List (Padded Source)} {vs : List Json}
  {g : Json → Option α}

def itemsText (first : Bool) (gap : List Blank) (items : List (Padded Source)) (rest : List Glyph) :
    List Glyph :=
  listText first gap (items.map slot) rest

theorem ofChars_itemsText (gap : List Blank) (items : List (Padded Source)) (rest : List Glyph) :
    Glyph.ofChars (Source.array gap items).chars ++ rest = .char '[' :: itemsText true gap items rest := by
  have htexts : Source.itemTexts items = (items.map slot).map Padded.chars := by
    rw [Source.itemTexts_eq, List.map_map]
    rfl
  simp [Source.chars, htexts, itemsText, listText, between]

theorem outcome_sources
    (h : List.Forall₂ (fun (item : Padded Source) v => Decides r item.inside.chars (g v)) items vs)
    (gap : List Blank) (rest : List Glyph) :
    outcome (Reader.items r) (itemsText true gap items rest) =
      (vs.mapM g).map (·, .char ']' :: rest) := by
  have heach : DecidesEach r g (items.map slot) vs :=
    List.forall₂_map_left_iff.2 (h.imp fun item _ hitem => ⟨item.inside.begins, hitem⟩)
  exact outcome_items heach gap rest

variable {m : Padded Spelling × Padded Source} {members : List (Padded Spelling × Padded Source)}
  {ms : Members}

def membersText (first : Bool) (gap : List Blank) (members : List (Padded Spelling × Padded Source))
    (rest : List Glyph) : List Glyph :=
  objectText first gap (members.map memberSlot) rest

theorem ofChars_membersText (gap : List Blank) (members : List (Padded Spelling × Padded Source))
    (rest : List Glyph) :
    Glyph.ofChars (Source.object gap members).chars ++ rest =
      .char '\x7b' :: membersText true gap members rest := by
  have htexts : Source.memberTexts members = (members.map memberSlot).map memberText := by
    rw [Source.memberTexts_eq, List.map_map]
    refine List.map_congr_left fun m _ => ?_
    simp [memberText, memberSlot, slot, valueChars, Padded.chars, Padded.map, Spelling.chars]
  simp [Source.chars, htexts, membersText, objectText, between]

abbrev DecidesMembers (member : String → σ → Reader σ) (step : σ → String × Json → Option σ)
    (members : List (Padded Spelling × Padded Source)) (ms : Members) : Prop :=
  List.Forall₂ (fun m m' => m.1.inside.text? none = some m'.1 ∧
    ∀ s, Decides (member m'.1 s) (valueChars (memberSlot m)) (step s m')) members ms

variable {member : String → σ → Reader σ} {step : σ → String × Json → Option σ}

theorem DecidesMembers.folds (h : DecidesMembers member step members ms) (s : σ) :
    Folds member (members.map memberSlot) s (ms.foldlM step s) := by
  induction h generalizing s with
  | nil => exact .nil
  | @cons m m' members ms hm _ ih =>
    have hname : Spells (memberSlot m).1.inside m'.1 := readString_spelling hm.1
    have hvalue := hm.2 s
    rw [List.foldlM_cons]
    cases hstep : step s m' with
    | none => exact .stop hname (hstep ▸ hvalue)
    | some s' => exact .cons hname (hstep ▸ hvalue) (ih s')

theorem outcome_memberSources (h : DecidesMembers member step members ms) (s : σ) (gap : List Blank)
    (rest : List Glyph) :
    outcome (Reader.members member s) (membersText true gap members rest) =
      (ms.foldlM step s).map (·, .char '\x7d' :: rest) :=
  outcome_members (h.folds s) gap rest

theorem reads_figure {f : Figure} {n : Number} (h : f.number? = some n) :
    Reads readNumber f.chars n := by
  intro rest hrest
  refine (bind_ok (readNumeral_figure f hrest)).trans ?_
  rw [ok_of_toOption h]
  rfl

/-- A member that nobody asks for. -/
theorem decides_colon_skip (m : Padded Spelling × Padded Source) (a : α) :
    Decides (do colon; skipValue; pure a) (valueChars (memberSlot m)) (some a) := by
  intro rest hrest
  refine (outcome_bind_ok (colon_valueChars _ rest)).trans ?_
  exact outcome_bind_ok (skipValue_source m.2.inside m.2.before hrest)

/-- A source is read as the document that it stands for. -/
theorem reads_source {n : Nat} {t : Source} {v : Json} (h : Stands n t v) :
    Reads (readValue n) t.chars v := by
  induction n using Nat.strongRecOn generalizing t v with
  | ind n ih =>
    obtain ⟨list, object, heq⟩ := readValue_eq n
    cases t with
    | null =>
      obtain rfl := Option.some.inj h.value
      rw [heq]
      exact reads_null
    | bool b =>
      obtain rfl := Option.some.inj h.value
      rw [heq]
      cases b
      · exact reads_bool false
      · exact reads_bool true
    | number f =>
      obtain ⟨m, hm, rfl⟩ := Option.map_eq_some_iff.1 h.value
      rw [heq]
      exact reads_numberChars (reads_figure hm)
    | string s =>
      obtain ⟨text, htext, rfl⟩ := Option.map_eq_some_iff.1 h.value
      rw [heq]
      exact reads_string (readString_spelling htext)
    | array gap items =>
      obtain ⟨k, vs, rfl, rfl, hitems⟩ := Source.stands_array h
      intro rest _
      rw [ofChars_itemsText]
      refine readValue_list (List.forall₂_map_left_iff.2 (hitems.imp fun item _ hitem => ?_)) gap rest
      exact ⟨item.inside.begins, ih k (Nat.lt_succ_self k) hitem⟩
    | object gap members =>
      obtain ⟨k, ms, rfl, rfl, hmembers⟩ := Source.stands_object h
      intro rest _
      rw [ofChars_membersText]
      refine readValue_object (List.forall₂_map_left_iff.2 (hmembers.imp fun m _ hm => ?_)) gap rest
      exact ⟨readString_spelling hm.1, ih k (Nat.lt_succ_self k) hm.2⟩

/-- A source with the document that it stands for, and the character that it begins with. -/
inductive Begun : Source → Json → Char → Prop where
  | null : Begun .null .null 'n'
  | yes : Begun (.bool true) (.bool true) 't'
  | no : Begun (.bool false) (.bool false) 'f'
  | number {f : Figure} {n : Number} {c : Char} (hn : f.number? = some n)
      (hc : c = '-' ∨ (Numeral.digit? (.char c)).isSome = true) : Begun (.number f) (.number n) c
  | string {s : Spelling} {text : String} (h : s.text? none = some text) :
      Begun (.string s) (.string text) '"'
  | array {gap : List Blank} {items : List (Padded Source)} {vs : List Json} :
      Begun (.array gap items) (.array vs) '['
  | object {gap : List Blank} {members : List (Padded Spelling × Padded Source)} {ms : Members} :
      Begun (.object gap members) (.object ms) '\x7b'

variable {t : Source} {v : Json} {n : Nat}

theorem begun_of_value (h : t.value? none = some v) :
    ∃ c cs, t.chars = c :: cs ∧ isSpace (.char c) = false ∧ Begun t v c := by
  cases t with
  | null =>
    obtain rfl := Option.some.inj h
    exact ⟨_, _, rfl, rfl, .null⟩
  | bool b =>
    obtain rfl := Option.some.inj h
    cases b
    · exact ⟨_, _, rfl, rfl, .no⟩
    · exact ⟨_, _, rfl, rfl, .yes⟩
  | number f =>
    obtain ⟨n, hn, rfl⟩ := Option.map_eq_some_iff.1 h
    obtain ⟨c, cs, hcs, hc⟩ := figure_begins f
    exact ⟨c, cs, hcs, not_space_of_number hc, .number hn hc⟩
  | string s =>
    obtain ⟨text, htext, rfl⟩ := Option.map_eq_some_iff.1 h
    exact ⟨_, _, rfl, rfl, .string htext⟩
  | array gap items =>
    obtain ⟨vs, -, rfl⟩ := Option.map_eq_some_iff.1 h
    exact ⟨_, _, rfl, rfl, .array⟩
  | object gap members =>
    obtain ⟨ms, -, rfl⟩ := Option.map_eq_some_iff.1 h
    exact ⟨_, _, rfl, rfl, .object⟩

theorem skips_readText : Skips readText := skips_token

theorem skips_optional : Skips (optional r) := skips_token

variable {c : Char}

theorem outcome_text_wrong (hspace : isSpace (.char c) = false) (hc : c ≠ '"') :
    outcome readText (.char c :: text) = none := by
  rw [readText, outcome, bind_token hspace]
  dsimp only
  rw [if_neg (by simpa using hc)]
  exact outcome_wrongType _

theorem outcome_float_wrong (hspace : isSpace (.char c) = false)
    (hc : c ≠ '-' ∧ Numeral.digit? (.char c) = none) :
    outcome readFloat (.char c :: text) = none := by
  rw [readFloat, outcome, bind_token hspace]
  dsimp only
  rw [if_neg (by simp [hc.1, hc.2])]
  exact outcome_wrongType _

theorem outcome_optional (hspace : isSpace (.char c) = false) (hc : c ≠ 'n') :
    outcome (optional r) (.char c :: text) =
      (outcome r (.char c :: text)).map fun p => (some p.1, p.2) := by
  rw [optional, outcome, bind_token hspace, if_neg (by simpa using hc), ← outcome, outcome_bind]
  cases outcome r (.char c :: text) <;> rfl

/-- A string is read, and nothing else is. -/
theorem decides_text (h : t.value? none = some v) :
    Decides readText t.chars (Datapoint.stringOfJson v).toOption := by
  intro rest hrest
  obtain ⟨c, cs, hcs, hspace, hbegun⟩ := begun_of_value h
  have hwrong (hc : c ≠ '"') : outcome readText (Glyph.ofChars t.chars ++ rest) = none := by
    rw [hcs, ofChars_cons, List.cons_append, outcome_text_wrong hspace hc]
  cases hbegun with
  | string htext => exact (reads_text (readString_spelling htext)).decides rest hrest
  | number _ hc => exact hwrong (ne_of_begins_number hc (by decide))
  | null | yes | no | array | object => exact hwrong (by decide)

theorem decides_origin (h : t.value? none = some v) :
    Decides (optional readText) t.chars (Datapoint.originOfJson v).toOption := by
  intro rest hrest
  obtain ⟨c, cs, hcs, hspace, hbegun⟩ := begun_of_value h
  have hwrong (hn : c ≠ 'n') (hc : c ≠ '"') :
      outcome (optional readText) (Glyph.ofChars t.chars ++ rest) = none := by
    rw [hcs, ofChars_cons, List.cons_append, outcome_optional hspace hn,
      outcome_text_wrong hspace hc, Option.map_none]
  cases hbegun with
  | null => exact reads_optional_null.decides rest hrest
  | string htext =>
    exact (reads_optional_text (readString_spelling htext)).decides rest hrest
  | number _ hc => exact hwrong (ne_of_begins_number hc (by decide)) (ne_of_begins_number hc (by decide))
  | yes | no | array | object => exact hwrong (by decide) (by decide)

theorem decides_time (h : t.value? none = some v) :
    Decides (optional readFloat) t.chars (Datapoint.timeOfJson v).toOption := by
  intro rest hrest
  obtain ⟨c, cs, hcs, hspace, hbegun⟩ := begun_of_value h
  have hwrong (hn : c ≠ 'n') (hc : c ≠ '-' ∧ Numeral.digit? (.char c) = none) :
      outcome (optional readFloat) (Glyph.ofChars t.chars ++ rest) = none := by
    rw [hcs, ofChars_cons, List.cons_append, outcome_optional hspace hn,
      outcome_float_wrong hspace hc, Option.map_none]
  cases hbegun with
  | null => exact reads_optional_null.decides rest hrest
  | number hn hc => exact (reads_float (reads_figure hn)).decides rest hrest
  | yes | no | string | array | object => exact hwrong (by decide) (by decide)

variable {item : Nat → Reader α} {list object : Nat → Reader α} {expected : String} {k : Nat}

theorem skips_endList : Skips endList := skips_token

theorem outcome_close (x : α) :
    outcome (do endList; pure x) (itemsText first gap [] rest) = some (x, rest) := by
  have hend : endList (itemsText first gap [] rest) = .ok ((), rest) := by
    cases first <;> exact (skips_endList gap _).trans rfl
  exact outcome_bind_ok hend

/-- A list that goes on does not end. -/
theorem outcome_close_more (x : α) (item : Padded Source) (items : List (Padded Source)) :
    outcome (do endList; pure x) (itemsText false gap (item :: items) rest) = none := by
  obtain ⟨text, htext⟩ : ∃ text, itemsText false gap (item :: items) rest =
      Glyph.ofChars (blankChars gap) ++ .char ',' :: text := ⟨_, rfl⟩
  have hend : outcome endList (itemsText false gap (item :: items) rest) = none := by
    rw [htext, outcome, skips_endList, endList, bind_token (g := .char ',') rfl]
    dsimp only
    rw [if_neg (by decide), if_pos rfl, bind_advance]
    refine outcome_bind_none fun next text => ?_
    split_ifs <;> rfl
  rw [outcome_bind, hend, Option.bind_none]

/-- The next field of a record that is a list, if there is one. -/
theorem nextField_none :
    nextField first r (itemsText first gap [] rest) = .ok (none, itemsText first [] [] rest) := by
  refine (bind_ok moreItems_none).trans ?_
  cases first <;> rfl

theorem nextField_some {item : Padded Source} (h : Decides r item.inside.chars found) :
    outcome (nextField first r) (itemsText first gap (item :: items) rest) =
      found.map fun a => (some a, itemsText false item.after items rest) := by
  have hmore : moreItems first (itemsText first gap (item :: items) rest) =
      .ok (true, Glyph.ofChars item.inside.chars ++ itemsText false item.after items rest) :=
    moreItems_some item.inside.begins
  refine (outcome_bind_ok hmore).trans ?_
  rw [if_pos rfl, outcome_bind, h (itemsText false item.after items rest) ends_listText]
  cases found <;> rfl

theorem record_list :
    record expected list object (k + 1) (.char '[' :: text) =
      (do let x ← list k; endList; pure x : Reader α) text := by
  refine (bind_token (g := .char '[') rfl).trans ?_
  dsimp only
  rw [if_pos rfl]
  rfl

theorem record_object :
    record expected list object (k + 1) (.char '\x7b' :: text) =
      (do let x ← object k; endObject; pure x : Reader α) text := by
  refine (bind_token (g := .char '\x7b') rfl).trans ?_
  dsimp only
  rw [if_neg (by decide), if_pos rfl]
  rfl

theorem outcome_record_wrong (hspace : isSpace (.char c) = false) (hc : c ≠ '[' ∧ c ≠ '\x7b') :
    outcome (record expected list object n) (.char c :: text) = none := by
  rw [record, outcome, bind_token hspace]
  dsimp only
  rw [if_neg (by simpa using hc.1), if_neg (by simpa using hc.2)]
  exact outcome_wrongType _

def eachOf (g : Json → Option α) : Json → Option (List α)
  | .array vs => vs.mapM g
  | _ => none

theorem decides_listOf {g : Json → Option α} (hitem : ∀ k t v, Stands k t v → Decides (item k) t.chars (g v))
    (h : Stands n t v) :
    Decides (listOf item n) t.chars (eachOf g v) := by
  intro rest hrest
  obtain ⟨c, cs, hcs, hspace, hbegun⟩ := begun_of_value h.value
  have hwrong (hc : c ≠ '[') : outcome (listOf item n) (Glyph.ofChars t.chars ++ rest) = none := by
    rw [hcs, ofChars_cons, List.cons_append, listOf, outcome, bind_token hspace]
    dsimp only
    rw [if_neg (by simpa using hc)]
    exact outcome_wrongType _
  cases hbegun with
  | array =>
    obtain ⟨k, vs, rfl, hvs, hitems⟩ := Source.stands_array h
    obtain rfl := Json.array.inj hvs
    rw [ofChars_itemsText]
    have hlist (text : List Glyph) : listOf item (k + 1) (.char '[' :: text) =
        (do let xs ← Reader.items (item k); endList; pure xs : Reader (List α)) text := by
      refine (bind_token (g := .char '[') rfl).trans ?_
      dsimp only
      rw [if_pos rfl]
      rfl
    rw [outcome, hlist, ← outcome, outcome_bind,
      outcome_sources (hitems.imp fun _ _ => hitem k _ _), eachOf]
    cases List.mapM g _ <;> rfl
  | number _ hc => exact hwrong (ne_of_begins_number hc (by decide))
  | null | yes | no | string | object => exact hwrong (by decide)

end Reader
end SeriesClient.Json
