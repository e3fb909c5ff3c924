import SeriesClient.Proofs.Codec.Scalars
import Mathlib.Data.List.DropRight

/-! Counts out of answers. The body of an answer is taken for a JSON document, and for a text if it is
none; a count is found in a number and in a text. Integers, strings and texts each have ideas of their
own of white space, signs and leading zeros, but together they come to one rule: the count is the
numeral that the body is, or that a JSON string in it is, white space aside. -/

namespace SeriesClient

namespace Text

variable {front body back : List Char}

theorem trimChars_eq (chars : List Char) :
    trimChars chars = (chars.dropWhile isBlank).rdropWhile isBlank := rfl

theorem dropWhile_ink {chars : List Char} (h : ∀ c ∈ chars.head?, isBlank c = false) :
    chars.dropWhile isBlank = chars := by
  cases chars with
  | nil => rfl
  | cons c chars => rw [List.dropWhile_cons, h c rfl, if_neg Bool.false_ne_true]

theorem trimChars_of_ink (hfront : ∀ c ∈ front, isBlank c = true) (hne : body ≠ [])
    (hfirst : ∀ c ∈ body.head?, isBlank c = false) (hlast : ∀ c ∈ body.getLast?, isBlank c = false)
    (hback : ∀ c ∈ back, isBlank c = true) : trimChars (front ++ (body ++ back)) = body := by
  have hhead : ∀ c ∈ (body ++ back).head?, isBlank c = false := by
    rwa [List.head?_append_of_ne_nil _ hne]
  have hreversed : ∀ c ∈ body.reverse.head?, isBlank c = false := by
    rwa [List.head?_reverse]
  have hspace : ∀ c ∈ back.reverse, isBlank c = true := fun c hc => hback c (List.mem_reverse.1 hc)
  rw [trimChars_eq, List.dropWhile_append_of_pos hfront, dropWhile_ink hhead, List.rdropWhile,
    List.reverse_append, List.dropWhile_append_of_pos hspace, dropWhile_ink hreversed,
    List.reverse_reverse]

theorem trimChars_between (hfront : ∀ c ∈ front, isBlank c = true) (hne : body ≠ [])
    (hbody : ∀ c ∈ body, isBlank c = false) (hback : ∀ c ∈ back, isBlank c = true) :
    trimChars (front ++ (body ++ back)) = body :=
  trimChars_of_ink hfront hne (fun c hc => hbody c (List.mem_of_mem_head? hc))
    (fun c hc => hbody c (List.mem_of_getLast? hc)) hback

/-- The first character that is not white space stays. -/
theorem trimChars_cons (hfront : ∀ c ∈ front, isBlank c = true) {c : Char} (hc : isBlank c = false)
    (tail : List Char) : ∃ rest, trimChars (front ++ c :: tail) = c :: rest := by
  have hink : (c :: tail).rdropWhile isBlank ≠ [] := by
    intro hnil
    have hblank := List.rdropWhile_eq_nil_iff.1 hnil c List.mem_cons_self
    rw [hc] at hblank
    cases hblank
  rw [trimChars_eq, List.dropWhile_append_of_pos hfront, List.dropWhile_cons, hc,
    if_neg Bool.false_ne_true]
  obtain ⟨rest, hrest⟩ := List.rdropWhile_prefix isBlank (c :: tail)
  cases hkept : (c :: tail).rdropWhile isBlank with
  | nil => exact absurd hkept hink
  | cons d kept =>
    rw [hkept] at hrest
    exact ⟨kept, by rw [(List.cons.inj hrest).1]⟩

theorem trimChars_of_isAllBlank {text : String} (h : isAllBlank text = true) :
    trimChars text.toList = [] := by
  have hnone : text.toList.dropWhile isBlank = [] := List.dropWhile_eq_nil_iff.2 (List.all_eq_true.1 h)
  rw [trimChars_eq, hnone]
  rfl

end Text

namespace Stream

/-- Digits of a number below `2 ^ 64`, with or without a plus sign before them. -/
def Numeral (chars : List Char) (n : ℕ) : Prop :=
  n < 2 ^ 64 ∧ ∃ digits, (chars = digits ∨ chars = '+' :: digits) ∧ Decimal.natural? digits = some n

def takeDigit (n : ℕ) (c : Char) : Option ℕ :=
  match Json.Numeral.digit? (.char c) with
  | some d => if n * 10 + d < Json.Numeral.wordBound then some (n * 10 + d) else none
  | none => none

theorem digit?_of_not_isDigit {c : Char} (h : ¬ c.isDigit = true) : Json.Numeral.digit? (.char c) = none := by
  have hdigit : ∀ k : Fin 10, (Nat.digitChar k).isDigit = true := by decide
  by_contra hsome
  obtain ⟨d, hd⟩ := Option.ne_none_iff_exists'.1 hsome
  obtain ⟨k, rfl, -⟩ := Json.Reader.exists_digit hd
  exact h (hdigit k)

/-- Digits are taken one by one just if all of them together are a number that fits a word. -/
theorem foldlM_takeDigit {digits : List Char} {start n : ℕ} (hstart : start < Json.Numeral.wordBound) :
    digits.foldlM takeDigit start = some n ↔
      (∀ c ∈ digits, c.isDigit = true) ∧ Nat.ofDigitChars 10 digits start = n ∧
        n < Json.Numeral.wordBound := by
  rw [← Json.Reader.foldl_digitValues]
  induction digits generalizing start with
  | nil =>
    constructor
    · intro h
      cases h
      exact ⟨nofun, rfl, hstart⟩
    · rintro ⟨-, rfl, -⟩
      rfl
  | cons c digits ih =>
    rw [List.foldlM_cons, List.forall_mem_cons]
    by_cases hc : c.isDigit = true
    · have hvalues : Json.Reader.digitValues (c :: digits) =
          (c.toNat - 48) :: Json.Reader.digitValues digits := rfl
      rw [takeDigit, Json.Reader.digit?_of_isDigit hc, hvalues, List.foldl_cons]
      dsimp only
      split_ifs with hfits
      · simp [ih hfits, hc]
      · constructor
        · intro h
          cases h
        · rintro ⟨-, rfl, hn⟩
          have hle := Json.Reader.le_foldl_digits (Json.Reader.digitValues digits)
            (start * 10 + (c.toNat - 48))
          exact absurd (Nat.lt_of_le_of_lt hle hn) hfits
    · rw [takeDigit, digit?_of_not_isDigit hc]
      constructor
      · intro h
        cases h
      · rintro ⟨⟨hdigit, -⟩, -⟩
        exact absurd hdigit hc

def unsigned? (digits : List Char) : Option ℕ :=
  if digits.isEmpty then none else digits.foldlM takeDigit 0

theorem unsigned?_eq_some_iff {digits : List Char} {n : ℕ} :
    unsigned? digits = some n ↔ n < 2 ^ 64 ∧ Decimal.natural? digits = some n := by
  unfold unsigned?
  rw [Decimal.natural?_eq_some_iff]
  split_ifs with hempty
  · simp [List.isEmpty_iff.1 hempty]
  · rw [foldlM_takeDigit (by decide)]
    have hne : digits ≠ [] := fun h => hempty (List.isEmpty_iff.2 h)
    have hbound : Json.Numeral.wordBound = 2 ^ 64 := rfl
    rw [hbound]
    exact ⟨fun ⟨hdigits, hvalue, hn⟩ => ⟨hn, hne, hdigits, hvalue⟩,
      fun ⟨hn, _, hdigits, hvalue⟩ => ⟨hdigits, hvalue, hn⟩⟩

theorem numeral?_of_ne {chars : List Char} (h : ∀ digits, chars ≠ '+' :: digits) :
    numeral? chars = unsigned? chars := by
  unfold numeral?
  split
  · next digits => exact absurd rfl (h digits)
  · rfl

/-- What is told of a text is the numeral that it is. -/
theorem numeral?_eq_some_iff {chars : List Char} {n : ℕ} : numeral? chars = some n ↔ Numeral chars n := by
  by_cases hplus : ∃ digits, chars = '+' :: digits
  · obtain ⟨digits, rfl⟩ := hplus
    have htold : numeral? ('+' :: digits) = unsigned? digits := rfl
    rw [htold, unsigned?_eq_some_iff]
    constructor
    · rintro ⟨hn, hdigits⟩
      exact ⟨hn, digits, .inr rfl, hdigits⟩
    · rintro ⟨hn, digits', rfl | hchars, hdigits⟩
      · obtain ⟨-, hall, -⟩ := Decimal.natural?_eq_some_iff.1 hdigits
        cases hall '+' List.mem_cons_self
      · cases hchars
        exact ⟨hn, hdigits⟩
  · rw [numeral?_of_ne fun digits h => hplus ⟨digits, h⟩, unsigned?_eq_some_iff]
    constructor
    · rintro ⟨hn, hdigits⟩
      exact ⟨hn, chars, .inl rfl, hdigits⟩
    · rintro ⟨hn, digits, rfl | rfl, hdigits⟩
      · exact ⟨hn, hdigits⟩
      · exact absurd ⟨digits, rfl⟩ hplus

/-- The body tells the number: it is a numeral of it, or a JSON string of one, but for white space around
the numeral. -/
def Tells (body : String) (n : ℕ) : Prop :=
  Numeral (Text.trimChars body.toList) n ∨
    ∃ (spelled : Json.Padded Json.Spelling) (content : String),
      body.toList = (spelled.map Json.Spelling.chars).chars ∧
      spelled.inside.text? none = some content ∧ Numeral (Text.trimChars content.toList) n

open Json (Padded Spelling Figure Blank blankChars)

theorem isBlank_blankChars {blanks : List Blank} {c : Char} (h : c ∈ blankChars blanks) :
    Text.isBlank c = true := by
  obtain ⟨b, -, rfl⟩ := List.mem_map.1 h
  cases b <;> rfl

theorem not_isBlank_of_isDigit {c : Char} (h : c.isDigit = true) : Text.isBlank c = false :=
  Json.not_isBlank_of_number (.inr (by rw [Json.Reader.digit?_of_isDigit h]; rfl))

theorem not_isBlank_of_mem_figure {f : Figure} {c : Char} (h : c ∈ f.chars) : Text.isBlank c = false := by
  have hdigits {ds : Json.Digits} (hc : c ∈ Json.digitChars ds) : Text.isBlank c = false :=
    not_isBlank_of_isDigit (Figure.isDigit_of_mem_digitChars hc)
  rw [Figure.chars, List.mem_append, List.mem_append, List.mem_append] at h
  rcases h with hsign | hwhole | hfraction | hexponent
  · split_ifs at hsign
    · obtain rfl := List.mem_singleton.1 hsign
      rfl
    · cases hsign
  · exact not_isBlank_of_isDigit (Figure.isDigit_of_mem_wholeChars hwhole)
  · cases hds : f.fraction with
    | none =>
      rw [hds] at hfraction
      cases hfraction
    | some ds =>
      rw [hds] at hfraction
      rcases List.mem_cons.1 hfraction with rfl | hc
      · rfl
      · exact hdigits hc
  · cases he : f.exponent with
    | none =>
      rw [he] at hexponent
      cases hexponent
    | some e =>
      rw [he] at hexponent
      rcases List.mem_cons.1 hexponent with rfl | hc
      · cases e.upper <;> rfl
      · rcases List.mem_append.1 hc with hsign | hc
        · rcases hmark : e.sign with _ | _ | _
          · rw [hmark] at hsign
            cases hsign
          all_goals
            rw [hmark] at hsign
            obtain rfl := List.mem_singleton.1 hsign
            rfl
        · exact hdigits hc

theorem trimChars_figure (p : Padded Figure) :
    Text.trimChars (p.map Figure.chars).chars = p.inside.chars := by
  obtain ⟨c, cs, hcs, -⟩ := Json.Reader.figure_begins p.inside
  exact Text.trimChars_between (fun _ => isBlank_blankChars) (by simp [Padded.map, hcs])
    (fun _ => not_isBlank_of_mem_figure) fun _ => isBlank_blankChars

theorem count?_number {f : Figure} {m : Json.Number} {n : ℕ} (hm : f.number? = some m) :
    count? (.number m) = some n ↔ n < 2 ^ 64 ∧ Decimal.natural? f.chars = some n := by
  have hbound : Json.Numeral.wordBound = 2 ^ 64 := rfl
  rw [← hbound, ← Figure.number?_eq_natural_iff]
  constructor
  · intro h
    cases m with
    | real x hx => cases h
    | integer k hk =>
      rw [count?] at h
      split_ifs at h with hnonneg
      obtain rfl : k = n := by
        have hn := Option.some.inj h
        omega
      exact ⟨hk, hm⟩
  · rintro ⟨hfits, hn⟩
    obtain rfl : m = .integer n hfits := Option.some.inj (hm.symm.trans hn)
    rw [count?, if_pos (by omega), Int.toNat_natCast]

/-- A number is a numeral just if it is written in digits alone. -/
theorem numeral_figure_iff {f : Figure} {n : ℕ} :
    Numeral f.chars n ↔ n < 2 ^ 64 ∧ Decimal.natural? f.chars = some n := by
  constructor
  · rintro ⟨hn, digits, hdigits | hplus, hnatural⟩
    · rw [hdigits]
      exact ⟨hn, hnatural⟩
    · obtain ⟨c, cs, hcs, hc⟩ := Json.Reader.figure_begins f
      obtain rfl : c = '+' := (List.cons.inj (hcs.symm.trans hplus)).1
      rcases hc with hc | hc <;> cases hc
  · rintro ⟨hn, hnatural⟩
    exact ⟨hn, f.chars, .inl rfl, hnatural⟩

theorem numeral_begins {chars : List Char} {n : ℕ} (h : Numeral chars n) :
    ∃ c rest, chars = c :: rest ∧ (c = '+' ∨ c.isDigit = true) := by
  obtain ⟨-, digits, rfl | rfl, hnatural⟩ := h
  · obtain ⟨hne, hdigits, -⟩ := Decimal.natural?_eq_some_iff.1 hnatural
    obtain ⟨c, rest, rfl⟩ := List.exists_cons_of_ne_nil hne
    exact ⟨c, rest, rfl, .inr (hdigits c List.mem_cons_self)⟩
  · exact ⟨'+', digits, rfl, .inl rfl⟩

variable {body : String} {n : ℕ} {v : Json}

/-- A body that is a JSON string is read as that, and is not all white space. -/
theorem parse_spelled {p : Padded Spelling} {content : String}
    (hbody : body.toList = (p.map Spelling.chars).chars) (hcontent : p.inside.text? none = some content) :
    Json.parse (Glyph.ofChars body.toList) = .ok (.string content) ∧ Text.isAllBlank body = false := by
  have hvalue : (Json.Source.string p.inside).value? none = some (.string content) := by
    rw [Json.Source.value?, hcontent]
    rfl
  have hstands : Json.Source.Stands Json.Reader.depthLimit (.string p.inside) (.string content) :=
    ⟨hvalue, Nat.zero_le _⟩
  have htext : body = Json.Source.text ⟨p.before, .string p.inside, p.after⟩ := by
    rw [← String.ofList_toList (s := body), hbody]
    rfl
  rw [htext]
  exact ⟨Json.parse_text hstands, Json.not_isAllBlank_text hvalue⟩

/-- Of a body that is a document the count is found if the body tells it. -/
theorem count?_of_tells (hparse : Json.parse (Glyph.ofChars body.toList) = .ok v) (h : Tells body n) :
    count? v = some n := by
  rcases h with hnumeral | ⟨p, content, hbody, hcontent, hnumeral⟩
  · -- The document begins as the numeral does, so it is a number.
    obtain ⟨before, c, tail, left, hbody, hfrom, -⟩ := Json.parse_written hparse
    obtain ⟨d, rest, htrim, hd⟩ := numeral_begins hnumeral
    have hfirst (hc : Text.isBlank c = false) : c = '+' ∨ c.isDigit = true := by
      obtain ⟨rest', htrim'⟩ := Text.trimChars_cons (fun _ => isBlank_blankChars) hc tail
      rw [← hbody, htrim] at htrim'
      rw [← (List.cons.inj htrim').1]
      exact hd
    cases hfrom with
    | number hread =>
      obtain ⟨p, hbody, hm⟩ := Json.parse_number_written hparse
      rw [hbody, trimChars_figure, numeral_figure_iff] at hnumeral
      exact (count?_number hm).2 hnumeral
    | string hread => rcases hfirst rfl with hc | hc <;> cases hc
    | other hc hv =>
      simp only [List.mem_cons, List.not_mem_nil, or_false] at hc
      rcases hc with rfl | rfl | rfl | rfl | rfl <;> rcases hfirst rfl with hc | hc <;> cases hc
  · obtain ⟨hstring, -⟩ := parse_spelled hbody hcontent
    obtain rfl := Except.ok.inj (hparse.symm.trans hstring)
    exact numeral?_eq_some_iff.2 hnumeral

/-- Only what the body tells is found as the count of a body that is a document. -/
theorem tells_of_count? (hparse : Json.parse (Glyph.ofChars body.toList) = .ok v)
    (h : count? v = some n) : Tells body n := by
  cases v with
  | null | bool _ | array _ | object _ => cases h
  | number m =>
    obtain ⟨p, hbody, hm⟩ := Json.parse_number_written hparse
    left
    rw [hbody, trimChars_figure, numeral_figure_iff]
    exact (count?_number hm).1 h
  | string content =>
    obtain ⟨p, hbody, hcontent⟩ := Json.parse_string_written hparse
    exact .inr ⟨p, content, hbody, hcontent, numeral?_eq_some_iff.1 h⟩

theorem count?_normalize (v : Json) : count? v.normalize = count? v := by
  cases v <;> rw [Json.normalize] <;> rfl

/-- The count of a body is what the body tells, be it a document or not. -/
theorem count?_bodyDocument_eq_some_iff : count? (Http.bodyDocument body) = some n ↔ Tells body n := by
  unfold Http.bodyDocument
  split_ifs with hblank
  · constructor
    · intro h
      cases h
    · rintro (hnumeral | ⟨p, content, hbody, hcontent, -⟩)
      · obtain ⟨c, rest, htrim, -⟩ := numeral_begins hnumeral
        rw [Text.trimChars_of_isAllBlank hblank] at htrim
        cases htrim
      · obtain ⟨-, hink⟩ := parse_spelled hbody hcontent
        rw [hblank] at hink
        cases hink
  · cases hparse : Json.parse (Glyph.ofChars body.toList) with
    | error failure =>
      have hnone : Json.parseNormal (Glyph.ofString body) = .error failure := by
        rw [Json.parseNormal, Glyph.ofString, hparse]
        rfl
      rw [hnone]
      constructor
      · intro h
        exact .inl (numeral?_eq_some_iff.1 h)
      · rintro (hnumeral | ⟨p, content, hbody, hcontent, -⟩)
        · exact numeral?_eq_some_iff.2 hnumeral
        · obtain ⟨hstring, -⟩ := parse_spelled hbody hcontent
          rw [hparse] at hstring
          cases hstring
    | ok v =>
      have hread : Json.parseNormal (Glyph.ofString body) = .ok v.normalize := by
        rw [Json.parseNormal, Glyph.ofString, hparse]
        rfl
      rw [hread]
      change count? v.normalize = some n ↔ _
      rw [count?_normalize]
      exact ⟨tells_of_count? hparse, count?_of_tells hparse⟩

/-- The outcome is the number that the body tells, and else says that the answer was not expected. -/
structure Counts (outcome : Except StreamError ℕ) (body : String) : Prop where
  ok_iff : ∀ n, outcome = .ok n ↔ Tells body n
  unexpected : (∀ n, ¬ Tells body n) → ∃ detail, outcome = .error (.unexpectedResponse detail)

theorem counts_readCount (body : String) : Counts (readCount (Http.bodyDocument body)) body := by
  unfold readCount
  cases hcount : count? (Http.bodyDocument body) with
  | none =>
    have hnone : ∀ n, ¬ Tells body n := by
      intro n h
      rw [← count?_bodyDocument_eq_some_iff, hcount] at h
      cases h
    exact ⟨fun n => ⟨nofun, fun h => absurd h (hnone n)⟩, fun _ => ⟨_, rfl⟩⟩
  | some m =>
    have htells := count?_bodyDocument_eq_some_iff.1 hcount
    refine ⟨fun n => ?_, fun h => absurd htells (h m)⟩
    rw [← count?_bodyDocument_eq_some_iff, hcount]
    exact ⟨fun h => congrArg some (Except.ok.inj h), fun h => congrArg Except.ok (Option.some.inj h)⟩

variable {κ : Type}

/-- A successful answer, whatever its body, is counted by one rule: the length of a stream and the place
of a time in it are the number that the body tells. So a number, a JSON string and a bare text with the
same numeral give the same count, and no other body gives any. -/
theorem counts_of_any_body (s : Stream) (t : Float) (response : Http.Response)
    (h : Http.isSuccess response.status = true) :
    Counts ((s.length : Exchange κ _).hold response.replies).2
      (Glyph.lossy (Glyph.ofBytes response.body)) ∧
    Counts ((s.timeToIndex t : Exchange κ _).hold response.replies).2
      (Glyph.lossy (Glyph.ofBytes response.body)) := by
  have hread : response.read = .ok (Http.bodyDocument (Glyph.lossy (Glyph.ofBytes response.body))) := by
    rw [Http.Response.read, if_pos h]
  have hcount (call : Call) :
      Counts (((Exchange.api call : Exchange κ _).map (·.bind readCount)).hold response.replies).2
        (Glyph.lossy (Glyph.ofBytes response.body)) := by
    rw [Exchange.hold_map, Exchange.hold_api]
    change Counts (response.read.bind readCount) _
    rw [hread]
    exact counts_readCount _
  exact ⟨hcount _, hcount _⟩

def answered (body : String) : Http.Response := ⟨200, body.toUTF8.data.toList⟩

theorem lossy_answered (body : String) : Glyph.lossy (Glyph.ofBytes (answered body).body) = body := by
  rw [answered, Glyph.ofBytes_toUTF8, Glyph.lossy_ofString]

theorem not_tells_fraction (n : ℕ) : ¬ Tells "7.0" n := by
  rintro (⟨-, digits, rfl | hplus, hnatural⟩ | ⟨p, content, hbody, -⟩)
  · obtain ⟨-, hdigits, -⟩ := Decimal.natural?_eq_some_iff.1 hnatural
    cases hdigits '.' (by decide)
  · cases hplus
  · have hquote : '"' ∈ (p.map Spelling.chars).chars :=
      List.mem_append_right _ (List.mem_append_left _ List.mem_cons_self)
    rw [← hbody] at hquote
    exact absurd hquote (by decide)

/-- Seven as a bare text with zeros, as a JSON string and as a JSON number; with a fraction it is no
count. -/
theorem counts_of_any_body_seven :
    (∀ body ∈ ["\u00a0+007\n", "\"7\"", " 7"],
      (((named "u/d/s").length : Exchange Unit _).hold (answered body).replies).2 = .ok 7) ∧
    ∃ detail, (((named "u/d/s").timeToIndex 1.5 : Exchange Unit _).hold (answered "7.0").replies).2 =
      .error (.unexpectedResponse detail) := by
  have hseven : Decimal.natural? ['7'] = some 7 := by decide
  constructor
  · intro body hbody
    have hcounts := (counts_of_any_body (κ := Unit) (named "u/d/s") 1.5 (answered body) rfl).1
    rw [lossy_answered] at hcounts
    apply (hcounts.ok_iff 7).2
    simp only [List.mem_cons, List.not_mem_nil, or_false] at hbody
    rcases hbody with rfl | rfl | rfl
    · exact .inl ⟨by decide, ['0', '0', '7'], .inr (by decide), by decide⟩
    · exact .inr ⟨.bare [.plain '7' (by decide)], "7", by decide, by decide, by decide, ['7'],
        .inl (by decide), hseven⟩
    · exact .inl ⟨by decide, ['7'], .inl (by decide), hseven⟩
  · have hcounts := (counts_of_any_body (κ := Unit) (named "u/d/s") 1.5 (answered "7.0") rfl).2
    rw [lossy_answered] at hcounts
    exact hcounts.unexpected not_tells_fraction

end Stream

end SeriesClient
