import SeriesClient.Proofs.Codec.TwoReads
import SeriesClient.Proofs.Decimal.Whole

/-! What numbers and strings are read from. A number or a string that a reader takes off the front of a
text is written there in one of the ways in which it can be written, so a text that the grammar has no
place for is not read. -/

namespace SeriesClient.Json

namespace Reader

variable {cs : List Char} {left : List Glyph}

theorem exists_of_head? {c : Char} (h : (Glyph.ofChars cs).head? = some (.char c)) :
    ∃ tail, cs = c :: tail := by
  cases cs with
  | nil => cases h
  | cons c' tail =>
    cases h
    exact ⟨tail, rfl⟩

theorem exists_digit {c : Char} {d : Nat} (h : Numeral.digit? (.char c) = some d) :
    ∃ k : Fin 10, c = Nat.digitChar k ∧ d = k := by
  simp only [Numeral.digit?, Option.ite_none_right_eq_some, Bool.and_eq_true, decide_eq_true_eq,
    Char.le_def, UInt32.le_iff_toNat_le] at h
  obtain ⟨⟨hlow, hhigh⟩, hd⟩ := h
  have hlow : 48 ≤ c.toNat := hlow
  have hhigh : c.toNat ≤ 57 := hhigh
  have hd : c.toNat - 48 = d := Option.some.inj hd
  have hchar : ∀ k : Fin 10, (Nat.digitChar k).toNat = k + 48 := by decide
  refine ⟨⟨d, by omega⟩, ?_, rfl⟩
  apply Char.toNat_inj.1
  rw [hchar]
  simp only
  omega

theorem digits_written (cs : List Char) : ∃ (ds : Digits) (back : List Char),
    cs = digitChars ds ++ back ∧
      Numeral.digits (Glyph.ofChars cs) = (digitNumbers ds, Glyph.ofChars back) := by
  induction cs with
  | nil => exact ⟨[], [], rfl, rfl⟩
  | cons c cs ih =>
    obtain ⟨ds, back, hcs, hdigits⟩ := ih
    cases hc : Numeral.digit? (.char c) with
    | none =>
      refine ⟨[], c :: cs, rfl, ?_⟩
      rw [ofChars_cons, Numeral.digits, hc]
      rfl
    | some d =>
      obtain ⟨k, rfl, rfl⟩ := exists_digit hc
      refine ⟨k :: ds, back, by rw [hcs]; rfl, ?_⟩
      rw [ofChars_cons, Numeral.digits, hc]
      simp only [hdigits]
      rfl

theorem some_digits_written {c : Char} {k : Fin 10} (hc : Numeral.digit? (.char c) = some k.val)
    {ds : List Nat} (h : Numeral.digits (Glyph.ofChars (c :: cs)) = (ds, left)) :
    ∃ (rest : Digits) (back : List Char), c :: cs = digitChars (k :: rest) ++ back ∧
      left = Glyph.ofChars back ∧ ds = digitNumbers (k :: rest) := by
  obtain ⟨k', rfl, hk⟩ := exists_digit hc
  obtain rfl := Fin.ext hk
  obtain ⟨rest, back, rfl, hdigits⟩ := digits_written cs
  rw [ofChars_cons, Numeral.digits, hc, hdigits] at h
  cases h
  exact ⟨rest, back, rfl, rfl, rfl⟩

theorem wholeDigits_written {ds : List Nat} (h : wholeDigits (Glyph.ofChars cs) = .ok (ds, left)) :
    ∃ (w : Whole) (back : List Char), cs = Figure.wholeChars w ++ back ∧
      left = Glyph.ofChars back ∧ ds = Figure.wholeDigits w := by
  cases cs with
  | nil => cases h
  | cons c cs =>
    have h := (bind_peek (g := .char c)).symm.trans h
    cases hc : Numeral.digit? (.char c) with
    | none =>
      simp only [hc] at h
      cases h
    | some d =>
      obtain ⟨k, hk, hd⟩ := exists_digit hc
      cases d with
      | zero =>
        obtain rfl : k = 0 := Fin.ext hd.symm
        simp only [hc] at h
        have h := bind_advance.symm.trans h
        rw [bind_peek_head] at h
        cases hnext : (cs.map Glyph.char).head?.bind Numeral.digit? with
        | some d' =>
          simp only [hnext] at h
          cases h
        | none =>
          simp only [hnext] at h
          cases h
          exact ⟨.zero, cs, by rw [hk]; rfl, rfl, rfl⟩
      | succ d =>
        simp only [hc] at h
        rw [hd] at hc
        obtain ⟨rest, back, hcs, hleft, hds⟩ := some_digits_written hc (Except.ok.inj h)
        obtain ⟨lead, rfl⟩ : ∃ lead : Fin 9, lead.succ = k := ⟨⟨d, by omega⟩, Fin.ext hd⟩
        exact ⟨.digits lead rest, back, hcs, hleft, hds⟩

theorem fractionDigits_written {f : Option (List Nat)}
    (h : fractionDigits (Glyph.ofChars cs) = .ok (f, left)) :
    ∃ (ds : Option (Fin 10 × Digits)) (back : List Char), cs = Figure.fractionChars ds ++ back ∧
      left = Glyph.ofChars back ∧ f = ds.map fun ds => digitNumbers (ds.1 :: ds.2) := by
  rw [fractionDigits, bind_peek_head] at h
  split_ifs at h with hpoint
  · obtain ⟨tail, rfl⟩ := exists_of_head? hpoint
    obtain ⟨ds, back, rfl, hdigits⟩ := digits_written tail
    have h := bind_advance.symm.trans h
    have hread := (bind_ok (congrArg Except.ok hdigits)).symm.trans h
    cases ds with
    | nil =>
      have hempty : (digitNumbers []).isEmpty = true := rfl
      rw [if_pos hempty, bind_peek_head] at hread
      cases hnext : (Glyph.ofChars back).head? <;> simp only [hnext] at hread <;> cases hread
    | cons d ds =>
      rw [if_neg (by simp [digitNumbers])] at hread
      cases hread
      exact ⟨some (d, ds), back, rfl, rfl, rfl⟩
  · cases h
    exact ⟨none, cs, rfl, rfl, rfl⟩

theorem exponentSign_written {plus : Bool} (h : exponentSign (Glyph.ofChars cs) = .ok (plus, left)) :
    ∃ (sign : Option Bool) (back : List Char), cs = Figure.signChars sign ++ back ∧
      left = Glyph.ofChars back ∧ plus = (sign != some false) := by
  rw [exponentSign, bind_peek_head] at h
  by_cases hplus : (Glyph.ofChars cs).head? = some (.char '+')
  · obtain ⟨tail, rfl⟩ := exists_of_head? hplus
    cases h
    exact ⟨some true, tail, rfl, rfl, rfl⟩
  · by_cases hminus : (Glyph.ofChars cs).head? = some (.char '-')
    · obtain ⟨tail, rfl⟩ := exists_of_head? hminus
      cases h
      exact ⟨some false, tail, rfl, rfl, rfl⟩
    · simp only [hplus, hminus, decide_false, Bool.or_self, Bool.false_eq_true, if_false,
        bne_iff_ne.2 hminus] at h
      cases h
      exact ⟨none, cs, rfl, rfl, rfl⟩

theorem exponentDigits_written {e : Option (Bool × List Nat)}
    (h : exponentDigits (Glyph.ofChars cs) = .ok (e, left)) :
    ∃ (exponent : Option Exponent) (back : List Char), cs = Figure.exponentChars exponent ++ back ∧
      left = Glyph.ofChars back ∧
      e = exponent.map fun e => (e.sign != some false, digitNumbers (e.first :: e.rest)) := by
  rw [exponentDigits, bind_peek_head] at h
  split_ifs at h with hmark
  · obtain ⟨upper, tail, rfl⟩ : ∃ (upper : Bool) (tail : List Char),
        cs = (if upper then 'E' else 'e') :: tail := by
      rcases Bool.or_eq_true_iff.1 hmark with hmark | hmark
      · obtain ⟨tail, rfl⟩ := exists_of_head? (of_decide_eq_true hmark)
        exact ⟨false, tail, rfl⟩
      · obtain ⟨tail, rfl⟩ := exists_of_head? (of_decide_eq_true hmark)
        exact ⟨true, tail, rfl⟩
    have h := bind_advance.symm.trans h
    obtain ⟨plus, mid, hsign, h⟩ := bind_eq_ok_iff.1 h
    obtain ⟨sign, back, rfl, rfl, rfl⟩ := exponentSign_written hsign
    rw [bind_peek_head] at h
    cases back with
    | nil => cases h
    | cons c back =>
      cases hc : Numeral.digit? (.char c) with
      | none =>
        simp only [ofChars_cons, List.head?_cons, hc] at h
        cases h
      | some d =>
        obtain ⟨k, hk, rfl⟩ := exists_digit hc
        simp only [ofChars_cons, List.head?_cons, hc] at h
        obtain ⟨ds, mid, hds, h⟩ := bind_eq_ok_iff.1 h
        obtain ⟨rest, back', hcs, hleft, rfl⟩ := some_digits_written hc (Except.ok.inj hds)
        cases h
        refine ⟨some ⟨upper, sign, k, rest⟩, back', ?_, hleft, rfl⟩
        rw [hcs]
        simp [Figure.exponentChars]
  · cases h
    exact ⟨none, cs, rfl, rfl, rfl⟩

/-- A numeral that is read is written as a number. -/
theorem readNumeral_written {numeral : Numeral}
    (h : readNumeral (Glyph.ofChars cs) = .ok (numeral, left)) :
    ∃ (f : Figure) (back : List Char), cs = f.chars ++ back ∧ left = Glyph.ofChars back ∧
      numeral = f.numeral := by
  rw [readNumeral, bind_peek_head] at h
  obtain ⟨negative, tail, rfl, hparts⟩ : ∃ (negative : Bool) (tail : List Char),
      cs = (if negative then ['-'] else []) ++ tail ∧
      (do
        let whole ← wholeDigits
        let fraction ← fractionDigits
        let exponent ← exponentDigits
        Pure.pure (⟨negative, whole, fraction, exponent⟩ : Numeral)) (Glyph.ofChars tail) =
          .ok (numeral, left) := by
    by_cases hminus : (Glyph.ofChars cs).head? = some (.char '-')
    · obtain ⟨tail, rfl⟩ := exists_of_head? hminus
      exact ⟨true, tail, rfl, h⟩
    · simp only [hminus, if_false, decide_false] at h
      exact ⟨false, cs, rfl, h⟩
  obtain ⟨whole, mid, hwhole, hparts⟩ := bind_eq_ok_iff.1 hparts
  obtain ⟨w, tail, rfl, rfl, rfl⟩ := wholeDigits_written hwhole
  obtain ⟨fraction, mid, hfraction, hparts⟩ := bind_eq_ok_iff.1 hparts
  obtain ⟨ds, tail, rfl, rfl, rfl⟩ := fractionDigits_written hfraction
  obtain ⟨exponent, mid, hexponent, hparts⟩ := bind_eq_ok_iff.1 hparts
  obtain ⟨e, back, rfl, rfl, rfl⟩ := exponentDigits_written hexponent
  cases hparts
  refine ⟨⟨negative, w, ds, e⟩, back, ?_, rfl, rfl⟩
  simp [Figure.chars]

theorem readNumber_written {n : Number} (h : readNumber (Glyph.ofChars cs) = .ok (n, left)) :
    ∃ (f : Figure) (back : List Char), cs = f.chars ++ back ∧ left = Glyph.ofChars back ∧
      f.number? = some n := by
  obtain ⟨numeral, mid, hnumeral, h⟩ := bind_eq_ok_iff.1 h
  obtain ⟨f, back, hcs, rfl, rfl⟩ := readNumeral_written hnumeral
  refine ⟨f, back, hcs, ?_⟩
  cases hvalue : f.numeral.value with
  | error left =>
    simp only [hvalue] at h
    cases h
  | ok m =>
    simp only [hvalue] at h
    cases h
    exact ⟨rfl, by rw [Figure.number?, hvalue]; rfl⟩

theorem exists_hex {c : Char} {d : Nat} (h : hexValue? (.char c) = some d) :
    ∃ k : Hex, c = k.char ∧ d = k.digit := by
  have hdecimal : ∀ k : Fin 10, (hexDigit k).toNat = k + 48 := by decide
  have hletter : ∀ k : Fin 6, (hexDigit (k + 10)).toNat = k + 97 ∧
      (hexDigit (k + 10)).toUpper.toNat = k + 65 := by decide
  simp only [hexValue?, Bool.and_eq_true, decide_eq_true_eq, Char.le_def,
    UInt32.le_iff_toNat_le] at h
  split_ifs at h with hdigit hlower hupper
  · obtain ⟨hlow, hhigh⟩ : 48 ≤ c.toNat ∧ c.toNat ≤ 57 := hdigit
    have hd : c.toNat - 48 = d := Option.some.inj h
    refine ⟨⟨⟨d, by omega⟩, false⟩, Char.toNat_inj.1 ?_, rfl⟩
    have hchar := hdecimal ⟨d, by omega⟩
    simp only [Hex.char, Bool.false_eq_true, if_false] at hchar ⊢
    omega
  · obtain ⟨hlow, hhigh⟩ : 97 ≤ c.toNat ∧ c.toNat ≤ 102 := hlower
    have hd : c.toNat - 87 = d := Option.some.inj h
    refine ⟨⟨⟨d, by omega⟩, false⟩, Char.toNat_inj.1 ?_, rfl⟩
    obtain ⟨hchar, -⟩ := hletter ⟨d - 10, by omega⟩
    simp only [Hex.char, Bool.false_eq_true, if_false, Nat.sub_add_cancel (by omega : 10 ≤ d)] at hchar ⊢
    omega
  · obtain ⟨hlow, hhigh⟩ : 65 ≤ c.toNat ∧ c.toNat ≤ 70 := hupper
    have hd : c.toNat - 55 = d := Option.some.inj h
    refine ⟨⟨⟨d, by omega⟩, true⟩, Char.toNat_inj.1 ?_, rfl⟩
    obtain ⟨-, hchar⟩ := hletter ⟨d - 10, by omega⟩
    simp only [Hex.char, if_true, Nat.sub_add_cancel (by omega : 10 ≤ d)] at hchar ⊢
    omega

variable {done glyphs : List Glyph} {high count value : Nat}

/-- A digit that is looked for in an escape, the first or the second of a pair, is there. -/
theorem hex_written {mode : Nat → Nat → StringState} (hmode : mode = .hex ∨ ∃ high, mode = .pairHex high)
    (h : scanString (mode count value) done (Glyph.ofChars cs) = .ok (glyphs, left)) :
    ∃ (k : Hex) (tail : List Char), cs = k.char :: tail ∧
      (count < 3 → scanString (mode (count + 1) (value * 16 + k.digit)) done (Glyph.ofChars tail) =
        .ok (glyphs, left)) := by
  cases cs with
  | nil => rcases hmode with rfl | ⟨high, rfl⟩ <;> cases h
  | cons c tail =>
    rw [ofChars_cons] at h
    cases hc : hexValue? (.char c) with
    | none =>
      rcases hmode with rfl | ⟨high, rfl⟩ <;>
      · simp only [scanString, hc] at h
        cases h
    | some d =>
      obtain ⟨k, rfl, rfl⟩ := exists_hex hc
      refine ⟨k, tail, rfl, fun hcount => ?_⟩
      rcases hmode with rfl | ⟨high, rfl⟩
      · rwa [scanString_hex hcount hc] at h
      · rwa [scanString_pairHex hcount hc] at h

theorem escape_written {mode : Nat → Nat → StringState} (hmode : mode = .hex ∨ ∃ high, mode = .pairHex high)
    (h : scanString (mode 0 0) done (Glyph.ofChars cs) = .ok (glyphs, left)) :
    ∃ (e : Escape) (tail : List Char), '\\' :: 'u' :: cs = e.chars ++ tail := by
  obtain ⟨a, cs, rfl, ha⟩ := hex_written hmode h
  obtain ⟨b, cs, rfl, hb⟩ := hex_written hmode (ha (by decide))
  obtain ⟨c, cs, rfl, hc⟩ := hex_written hmode (hb (by decide))
  obtain ⟨d, cs, rfl, -⟩ := hex_written hmode (hc (by decide))
  exact ⟨⟨a, b, c, d⟩, cs, rfl⟩

/-- The second escape of a pair, with what it begins with. -/
theorem second_written (h : scanString (.pairSlash high) done (Glyph.ofChars cs) = .ok (glyphs, left)) :
    ∃ (e : Escape) (tail : List Char), cs = e.chars ++ tail := by
  cases cs with
  | nil => cases h
  | cons c cs =>
    by_cases hslash : c = '\\'
    · subst hslash
      have h : scanString (.pairU high) done (Glyph.ofChars cs) = .ok (glyphs, left) := h
      cases cs with
      | nil => cases h
      | cons c cs =>
        by_cases hu : c = 'u'
        · subst hu
          have h : scanString (.pairHex high 0 0) done (Glyph.ofChars cs) = .ok (glyphs, left) := h
          exact escape_written (Or.inr ⟨high, rfl⟩) h
        · simp only [ofChars_cons, scanString, Glyph.char.injEq, hu, if_false] at h
          cases h
    · simp only [ofChars_cons, scanString, Glyph.char.injEq, hslash, if_false] at h
      cases h

theorem escaped?_written {c e : Char} (h : escaped? c = some e) :
    ∃ s : Short, c = s.letter ∧ e = s.char := by
  unfold escaped? at h
  split at h
  · exact ⟨.quote, rfl, (Option.some.inj h).symm⟩
  · exact ⟨.backslash, rfl, (Option.some.inj h).symm⟩
  · exact ⟨.slash, rfl, (Option.some.inj h).symm⟩
  · exact ⟨.backspace, rfl, (Option.some.inj h).symm⟩
  · exact ⟨.formFeed, rfl, (Option.some.inj h).symm⟩
  · exact ⟨.newline, rfl, (Option.some.inj h).symm⟩
  · exact ⟨.carriage, rfl, (Option.some.inj h).symm⟩
  · exact ⟨.tab, rfl, (Option.some.inj h).symm⟩
  · cases h

/-- A string that is being read ends, or a character follows as it can be written. -/
theorem piece_written (h : scanString .plain done (Glyph.ofChars cs) = .ok (glyphs, left)) :
    (∃ back, cs = '"' :: back ∧ glyphs = done.reverse ∧ left = Glyph.ofChars back) ∨
      ∃ (p : Piece) (c : Char) (tail : List Char), cs = p.chars ++ tail ∧ p.char? none = some c := by
  cases cs with
  | nil => cases h
  | cons c cs =>
    by_cases hquote : c = '"'
    · subst hquote
      cases h
      exact .inl ⟨cs, rfl, rfl, rfl⟩
    right
    by_cases hslash : c = '\\'
    · subst hslash
      have hescape : scanString .escape done (Glyph.ofChars cs) = .ok (glyphs, left) := h
      cases cs with
      | nil => cases hescape
      | cons c cs =>
        by_cases hu : c = 'u'
        · subst hu
          obtain ⟨e, tail, hcs⟩ := escape_written (Or.inl rfl) hescape
          rw [hcs, ofChars_append, scanString_escape] at h
          rw [hcs]
          split_ifs at h with hlow hhigh
          · obtain ⟨second, tail, rfl⟩ := second_written h
            rw [ofChars_append, scanString_second] at h
            split_ifs at h with hsecond
            exact ⟨.pair e second hhigh hsecond, _, tail, by simp [Piece.chars], rfl⟩
          · exact ⟨.unit e, Char.ofNat e.value, tail, rfl, by simp [Piece.char?, Escape.isSurrogate, hlow, hhigh]⟩
        · simp only [ofChars_cons, scanString] at hescape
          split at hescape
          · next e hc =>
            obtain ⟨s, rfl, rfl⟩ := escaped?_written hc
            exact ⟨.short s, s.char, cs, rfl, rfl⟩
          · cases hescape
    · simp only [ofChars_cons, scanString, Glyph.char.injEq, hquote, hslash, if_false] at h
      split_ifs at h with hcontrol
      exact ⟨.plain c ⟨hquote, hslash, Nat.not_lt.1 hcontrol⟩, c, cs, rfl, rfl⟩

theorem scanString_written (h : scanString .plain done (Glyph.ofChars cs) = .ok (glyphs, left)) :
    ∃ (s : Spelling) (text back : List Char), cs = s.rest ++ back ∧ left = Glyph.ofChars back ∧
      s.mapM (Piece.char? none) = some text ∧ glyphs = done.reverse ++ Glyph.ofChars text := by
  -- Each piece has a character of its own, so what is left of the text is shorter.
  induction hn : cs.length using Nat.strongRecOn generalizing cs done with
  | ind n ih =>
    subst hn
    rcases piece_written h with ⟨back, rfl, rfl, rfl⟩ | ⟨p, c, tail, rfl, hp⟩
    · exact ⟨[], [], back, rfl, rfl, rfl, (List.append_nil _).symm⟩
    · rw [ofChars_append, scanString_piece hp] at h
      have hshorter : tail.length < (p.chars ++ tail).length := by
        have hpos : 0 < p.chars.length := by
          cases p <;> simp [Piece.chars, Escape.chars]
        rw [List.length_append]
        omega
      obtain ⟨s, text, back, rfl, hleft, htext, hglyphs⟩ := ih _ hshorter h rfl
      refine ⟨p :: s, c :: text, back, ?_, hleft, by simp [hp, htext], ?_⟩
      · simp [Spelling.rest]
      · simp [hglyphs]

/-- A string that is read is written as one. -/
theorem readString_written {text : String} (h : readString (Glyph.ofChars cs) = .ok (text, left)) :
    ∃ (s : Spelling) (back : List Char), cs = s.rest ++ back ∧ left = Glyph.ofChars back ∧
      s.text? none = some text := by
  rw [readString] at h
  cases hscan : scanString .plain [] (Glyph.ofChars cs) with
  | error failure =>
    simp only [hscan] at h
    cases h
  | ok found =>
    obtain ⟨glyphs, rest⟩ := found
    obtain ⟨s, chars, back, hcs, rfl, hs, rfl⟩ := scanString_written hscan
    simp only [hscan, List.reverse_nil, List.nil_append, strict?_ofChars] at h
    cases h
    exact ⟨s, back, hcs, rfl, by rw [Spelling.text?, hs]; rfl⟩

end Reader

def Number.IsReal (n : Number) : Prop := ∀ m h, n ≠ .integer m h

theorem isReal_of_ofFloat? {x : Float} : ∀ n ∈ Numeral.ofFloat? x, n.IsReal := by
  intro n hn m h
  unfold Numeral.ofFloat? at hn
  split_ifs at hn
  · cases hn
    intro heq
    cases heq
  · cases hn

theorem isReal_of_scaled {r : Option Float} {negative : Bool} :
    ∀ n ∈ r.bind fun x => Numeral.ofFloat? (Numeral.signed negative x), n.IsReal := by
  intro n hn
  obtain ⟨x, -, hx⟩ := Option.bind_eq_some_iff.1 hn
  exact isReal_of_ofFloat? n hx

theorem not_integer_of_isReal {r : Option Number} {m : Int} {h : Fits m}
    (hread : (match r with
      | some x => Except.ok x
      | none => Except.error 0 : Except Nat Number) = .ok (.integer m h)) :
    ¬ ∀ n ∈ r, n.IsReal := by
  intro hr
  cases r with
  | none => cases hread
  | some n => exact hr n rfl m h (Except.ok.inj hread)

/-- A numeral that is an integer has nothing but a sign and digits, which are all taken in. -/
theorem value_integer {numeral : Numeral} {m : Int} {h : Fits m}
    (hvalue : numeral.value = .ok (.integer m h)) :
    numeral.fraction = none ∧ numeral.exponent = none ∧
      ∃ n : Nat, Numeral.takeWhole 0 numeral.whole = ⟨n, 0⟩ ∧
        m = (if numeral.negative then -(n : Int) else n) ∧ (numeral.negative = true → m ≠ 0) := by
  obtain ⟨negative, whole, fraction, exponent⟩ := numeral
  simp only [Numeral.value] at hvalue
  split at hvalue
  · split at hvalue
    · split_ifs at hvalue
      exact absurd isReal_of_ofFloat? (not_integer_of_isReal hvalue)
    · exact absurd isReal_of_scaled (not_integer_of_isReal hvalue)
  · have hparts {exact : Int} (hexact : (fraction.isNone && (Numeral.takeWhole 0 whole).exponent == 0 &&
        (exact != 0 || !negative) && decide (Fits exact)) = true) :
        fraction = none ∧ Numeral.takeWhole 0 whole = ⟨(Numeral.takeWhole 0 whole).significand, 0⟩ ∧
          (negative = true → exact ≠ 0) := by
      simp only [Bool.and_eq_true, Option.isNone_iff_eq_none, beq_iff_eq] at hexact
      obtain ⟨⟨⟨hfraction, hexponent⟩, hsign⟩, -⟩ := hexact
      refine ⟨hfraction, by rw [← hexponent], ?_⟩
      rintro rfl
      simpa using hsign
    split_ifs at hvalue with hnegative hexact hexact
    · obtain ⟨hfraction, hwhole, hsign⟩ := hparts hexact
      cases hvalue
      exact ⟨hfraction, rfl, _, hwhole, by rw [if_pos hnegative], hsign⟩
    · exact absurd isReal_of_scaled (not_integer_of_isReal hvalue)
    · obtain ⟨hfraction, hwhole, hsign⟩ := hparts hexact
      cases hvalue
      exact ⟨hfraction, rfl, _, hwhole, by rw [if_neg hnegative], hsign⟩
    · exact absurd isReal_of_scaled (not_integer_of_isReal hvalue)

namespace Figure

theorem wholeDigits_eq (w : Whole) : wholeDigits w = Reader.digitValues (wholeChars w) := by
  have hdigit : ∀ d : Fin 10, (Nat.digitChar d).toNat - 48 = d := by decide
  have hdigits (ds : Digits) : digitNumbers ds = Reader.digitValues (digitChars ds) := by
    induction ds with
    | nil => rfl
    | cons d ds ih => exact congrArg₂ List.cons (hdigit d).symm ih
  cases w with
  | zero => rfl
  | digits lead rest => exact congrArg₂ List.cons (hdigit lead.succ).symm (hdigits rest)

theorem isDigit_of_mem_digitChars {ds : Digits} {c : Char} (h : c ∈ digitChars ds) :
    c.isDigit = true := by
  have hdigit : ∀ d : Fin 10, (Nat.digitChar d).isDigit = true := by decide
  obtain ⟨d, -, rfl⟩ := List.mem_map.1 h
  exact hdigit d

theorem isDigit_of_mem_wholeChars {w : Whole} {c : Char} (h : c ∈ wholeChars w) : c.isDigit = true := by
  cases w with
  | zero =>
    obtain rfl := List.mem_singleton.1 h
    rfl
  | digits lead rest =>
    have hdigits : c ∈ digitChars (lead.succ :: rest) := h
    exact isDigit_of_mem_digitChars hdigits

variable {f : Figure} {n : Nat}

/-- Without a sign, a fraction and an exponent there are the digits of the whole part. -/
theorem natural?_chars (hnegative : f.negative = false) (hfraction : f.fraction = none)
    (hexponent : f.exponent = none) :
    Decimal.natural? f.chars = some (f.numeral.whole.foldl (fun s d => s * 10 + d) 0) := by
  have hchars : f.chars = wholeChars f.whole := by
    simp [chars, hnegative, hfraction, hexponent, fractionChars, exponentChars]
  have hne : wholeChars f.whole ≠ [] := by
    cases f.whole <;> exact List.cons_ne_nil _ _
  rw [hchars, Decimal.natural?_eq_some_iff]
  refine ⟨hne, fun c hc => isDigit_of_mem_wholeChars hc, ?_⟩
  rw [← Reader.foldl_digitValues, ← wholeDigits_eq]
  rfl

theorem bare_of_isDigit (h : ∀ c ∈ f.chars, c.isDigit = true) :
    f.negative = false ∧ f.fraction = none ∧ f.exponent = none := by
  obtain ⟨negative, whole, fraction, exponent⟩ := f
  refine ⟨?_, ?_, ?_⟩
  · cases negative with
    | false => rfl
    | true => cases h '-' (by simp [chars])
  · cases fraction with
    | none => rfl
    | some ds => cases h '.' (by simp [chars, fractionChars])
  · cases exponent with
    | none => rfl
    | some e =>
      have hmark := h (if e.upper then 'E' else 'e') (by simp [chars, exponentChars])
      cases hupper : e.upper <;> rw [hupper] at hmark <;> cases hmark

/-- A number is read as a natural number of a word just if it is written in the digits of that. -/
theorem number?_eq_natural_iff :
    (∃ h, f.number? = some (.integer n h)) ↔ n < Numeral.wordBound ∧ Decimal.natural? f.chars = some n := by
  constructor
  · rintro ⟨hfits, hnumber⟩
    have hvalue : f.numeral.value = .ok (.integer n hfits) := ok_of_toOption hnumber
    obtain ⟨hfraction, hexponent, s, hwhole, hn, hsign⟩ := value_integer hvalue
    have hnegative : f.negative = false := by
      by_contra hnegative
      have hnegative : f.negative = true := by simpa using hnegative
      have hne := hsign hnegative
      have hn : (n : Int) = -(s : Int) := hn.trans (if_pos hnegative)
      omega
    have hns : (n : Int) = s := hn.trans (if_neg (by simp [numeral, hnegative]))
    have hbound : (n : Int) < 0x10000000000000000 := hfits.2
    refine ⟨by rw [Numeral.wordBound]; omega, ?_⟩
    rw [natural?_chars hnegative (by simpa [numeral] using hfraction)
      (by simpa [numeral] using hexponent), Reader.foldl_of_takeWhole hwhole]
    congr
    omega
  · rintro ⟨hbound, hnatural⟩
    obtain ⟨-, hdigits, -⟩ := Decimal.natural?_eq_some_iff.1 hnatural
    obtain ⟨hnegative, hfraction, hexponent⟩ := bare_of_isDigit hdigits
    rw [natural?_chars hnegative hfraction hexponent, Option.some_inj] at hnatural
    have hfits : Fits n := by
      rw [Numeral.wordBound] at hbound
      constructor <;> omega
    have hnumeral : f.numeral = ⟨decide ((n : Int) < 0), f.numeral.whole, none, none⟩ := by
      simp [numeral, hnegative, hfraction, hexponent]
    refine ⟨hfits, ?_⟩
    rw [number?, hnumeral, Reader.value_of_takeWhole hfits (Reader.takeWhole_of_lt hnatural hbound)]
    rfl

end Figure

namespace Reader

variable {cs : List Char} {left : List Glyph} {v : Json}

theorem blanks_written (cs : List Char) : ∃ (blanks : List Blank) (back : List Char),
    cs = blankChars blanks ++ back ∧ (Glyph.ofChars cs).dropWhile isSpace = Glyph.ofChars back ∧
      ∀ g ∈ (Glyph.ofChars back).head?, isSpace g = false := by
  induction cs with
  | nil => exact ⟨[], [], rfl, rfl, nofun⟩
  | cons c cs ih =>
    obtain ⟨blanks, back, hcs, hdrop, hback⟩ := ih
    cases hc : isSpace (.char c) with
    | false =>
      refine ⟨[], c :: cs, rfl, ?_, ?_⟩
      · rw [ofChars_cons, List.dropWhile_cons, hc]
        rfl
      · rintro g hg
        cases hg
        exact hc
    | true =>
      obtain ⟨b, rfl⟩ : ∃ b : Blank, b.char = c := by
        rcases isSpace_iff.1 hc with h | h | h | h <;> cases h
        · exact ⟨.space, rfl⟩
        · exact ⟨.newline, rfl⟩
        · exact ⟨.tab, rfl⟩
        · exact ⟨.carriage, rfl⟩
      refine ⟨b :: blanks, back, by rw [hcs]; rfl, ?_, hback⟩
      rw [ofChars_cons, List.dropWhile_cons, hc, if_pos rfl, hdrop]

/-- A text of which nothing is left behind the blanks is blanks. -/
theorem blanks_of_dropWhile (h : (Glyph.ofChars cs).dropWhile isSpace = []) :
    ∃ blanks, cs = blankChars blanks := by
  obtain ⟨blanks, back, rfl, hdrop, -⟩ := blanks_written cs
  rw [hdrop] at h
  cases back with
  | nil => exact ⟨blanks, List.append_nil _⟩
  | cons _ _ => cases h

/-- The value is neither a number nor a string. -/
def Compound (v : Json) : Prop := (∀ n, v ≠ .number n) ∧ ∀ s, v ≠ .string s

/-- What a value is read from, its first character apart from the others. -/
inductive ReadFrom (left : List Glyph) : Char → List Char → Json → Prop where
  | number {c : Char} {tail : List Char} {n : Number}
      (h : readNumber (Glyph.ofChars (c :: tail)) = .ok (n, left)) : ReadFrom left c tail (.number n)
  | string {tail : List Char} {s : String} (h : readString (Glyph.ofChars tail) = .ok (s, left)) :
      ReadFrom left '"' tail (.string s)
  | other {c : Char} {tail : List Char} {v : Json} (hc : c ∈ ['n', 't', 'f', '[', '\x7b'])
      (hv : Compound v) : ReadFrom left c tail v

def MakesCompound (r : Reader Json) : Prop := ∀ text v left, r text = .ok (v, left) → Compound v

theorem compound_of_kind (h : v = .null ∨ (∃ b, v = .bool b) ∨ (∃ items, v = .array items) ∨
    ∃ members, v = .object members) : Compound v := by
  constructor
  · rintro n rfl
    simp at h
  · rintro s rfl
    simp at h

theorem makesCompound_pure (hv : Compound v) : MakesCompound (pure v) := by
  intro text w left h
  cases h
  exact hv

theorem MakesCompound.bind {α : Type} {r : Reader α} {f : α → Reader Json}
    (h : ∀ a, MakesCompound (f a)) : MakesCompound (r >>= f) := by
  intro text v left hread
  obtain ⟨a, mid, -, hf⟩ := bind_eq_ok_iff.1 hread
  exact h a mid v left hf

theorem makesCompound_failAhead (fault : Fault) : MakesCompound (failAhead fault) := nofun

theorem valueWith_written {list object : Reader Json} (hlist : MakesCompound list)
    (hobject : MakesCompound object) {c : Char} (hc : isSpace (.char c) = false)
    (h : valueWith list object (Glyph.ofChars (c :: cs)) = .ok (v, left)) : ReadFrom left c cs v := by
  rw [valueWith, ofChars_cons, bind_token hc] at h
  dsimp only at h
  split_ifs at h with hnull hyes hno hnumber hstring hopen hbrace
  · have hmakes : MakesCompound (do advance; expectRest ['u', 'l', 'l']; pure .null) :=
      .bind fun _ => .bind fun _ => makesCompound_pure (compound_of_kind (by simp))
    exact .other (by simp [hnull]) (hmakes _ _ _ h)
  · have hmakes : MakesCompound (do advance; expectRest ['r', 'u', 'e']; pure (.bool true)) :=
      .bind fun _ => .bind fun _ => makesCompound_pure (compound_of_kind (by simp))
    exact .other (by simp [hyes]) (hmakes _ _ _ h)
  · have hmakes : MakesCompound (do advance; expectRest ['a', 'l', 's', 'e']; pure (.bool false)) :=
      .bind fun _ => .bind fun _ => makesCompound_pure (compound_of_kind (by simp))
    exact .other (by simp [hno]) (hmakes _ _ _ h)
  · obtain ⟨n, mid, hread, h⟩ := bind_eq_ok_iff.1 h
    cases h
    exact .number hread
  · subst hstring
    obtain ⟨s, mid, hread, h⟩ := bind_eq_ok_iff.1 (bind_advance.symm.trans h)
    cases h
    exact .string hread
  · exact .other (by simp [hopen]) (hlist _ _ _ h)
  · exact .other (by simp [hbrace]) (hobject _ _ _ h)
  · cases h

theorem readValue_written {n : Nat} {c : Char} (hc : isSpace (.char c) = false)
    (h : readValue n (Glyph.ofChars (c :: cs)) = .ok (v, left)) : ReadFrom left c cs v := by
  cases n with
  | zero => exact valueWith_written (makesCompound_failAhead _) (makesCompound_failAhead _) hc h
  | succ n =>
    refine valueWith_written (.bind fun _ => .bind fun _ => .bind fun _ => ?_)
      (.bind fun _ => .bind fun _ => .bind fun _ => ?_) hc h <;>
    exact makesCompound_pure (compound_of_kind (by simp))

theorem run_eq_ok {α : Type} {r : Reader α} {text : List Glyph} {a : α} (h : run r text = .ok a) :
    ∃ left, r text = .ok (a, left) ∧ left.dropWhile isSpace = [] := by
  have hrun : run r text = (Prod.fst <$> (do let x ← r; atEnd; pure x : Reader α) text) := rfl
  rw [hrun] at h
  cases hread : (do let x ← r; atEnd; pure x : Reader α) text with
  | error failure =>
    rw [hread] at h
    cases h
  | ok found =>
    rw [hread] at h
    cases h
    obtain ⟨x, left, hx, hend⟩ := bind_eq_ok_iff.1 hread
    obtain ⟨_, rest, hend, hpure⟩ := bind_eq_ok_iff.1 hend
    cases hpure
    refine ⟨left, hx, ?_⟩
    obtain ⟨token, mid, htoken, hend⟩ := bind_eq_ok_iff.1 hend
    cases htoken
    cases hleft : left.dropWhile isSpace with
    | nil => rfl
    | cons g rest =>
      rw [hleft] at hend
      cases hend

end Reader

open Reader

variable {cs : List Char} {v : Json}

/-- A text that is a document: after blanks there comes a value, and after that nothing but blanks. -/
theorem parse_written (h : parse (Glyph.ofChars cs) = .ok v) :
    ∃ (before : List Blank) (c : Char) (tail : List Char) (left : List Glyph),
      cs = blankChars before ++ c :: tail ∧ ReadFrom left c tail v ∧
        ∀ back, left = Glyph.ofChars back → ∃ after, back = blankChars after := by
  obtain ⟨before, back, rfl, -, hback⟩ := blanks_written cs
  rw [ofChars_append] at h
  obtain ⟨left, hread, hend⟩ := run_eq_ok h
  rw [skips_readValue depthLimit before] at hread
  cases back with
  | nil => cases hread
  | cons c tail =>
    refine ⟨before, c, tail, left, rfl, readValue_written (hback _ rfl) hread, ?_⟩
    rintro back rfl
    exact blanks_of_dropWhile hend

theorem parse_number_written {n : Number} (h : parse (Glyph.ofChars cs) = .ok (.number n)) :
    ∃ p : Padded Figure, cs = (p.map Figure.chars).chars ∧ p.inside.number? = some n := by
  obtain ⟨before, c, tail, left, rfl, hfrom, hleft⟩ := parse_written h
  cases hfrom with
  | number hread =>
    obtain ⟨f, back, hcs, rfl, hn⟩ := readNumber_written hread
    obtain ⟨after, rfl⟩ := hleft back rfl
    exact ⟨⟨before, f, after⟩, by rw [hcs]; rfl, hn⟩
  | other _ hv => exact absurd rfl (hv.1 n)

theorem parse_string_written {s : String} (h : parse (Glyph.ofChars cs) = .ok (.string s)) :
    ∃ p : Padded Spelling, cs = (p.map Spelling.chars).chars ∧ p.inside.text? none = some s := by
  obtain ⟨before, c, tail, left, rfl, hfrom, hleft⟩ := parse_written h
  cases hfrom with
  | string hread =>
    obtain ⟨spelling, back, rfl, rfl, hs⟩ := readString_written hread
    obtain ⟨after, rfl⟩ := hleft back rfl
    exact ⟨⟨before, spelling, after⟩, rfl, hs⟩
  | other _ hv => exact absurd rfl (hv.2 s)

end SeriesClient.Json
