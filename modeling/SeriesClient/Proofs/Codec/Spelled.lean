import SeriesClient.Proofs.Codec.Source
import SeriesClient.Proofs.Codec.Numeral

/-! The parts of a source as readers take them: blanks, strings and numbers. A string or a number that is
asked for is read as what is meant by it. One that nobody asks for is passed over whatever it stands for,
and be it nothing. -/

namespace SeriesClient.Json

@[simp] theorem ofChars_nil : Glyph.ofChars [] = [] := rfl

@[simp] theorem ofChars_cons (c : Char) (cs : List Char) :
    Glyph.ofChars (c :: cs) = .char c :: Glyph.ofChars cs := rfl

@[simp] theorem ofChars_append (cs ds : List Char) :
    Glyph.ofChars (cs ++ ds) = Glyph.ofChars cs ++ Glyph.ofChars ds := List.map_append

@[simp] theorem length_ofChars (cs : List Char) : (Glyph.ofChars cs).length = cs.length :=
  List.length_map _

namespace Reader

variable {α β : Type} {r : Reader α} {f : α → Reader β} {text rest : List Glyph}

theorem isSpace_blank (b : Blank) : isSpace (.char b.char) = true := by
  cases b <;> rfl

/-- The reader does not mind blanks in front. -/
def Skips (r : Reader α) : Prop :=
  ∀ blanks text, r (Glyph.ofChars (blankChars blanks) ++ text) = r text

theorem Skips.bind (h : Skips r) : Skips (r >>= f) := fun blanks text =>
  congrArg (fun outcome => outcome >>= fun p : α × List Glyph => f p.1 p.2) (h blanks text)

theorem skips_skipBlanks : Skips skipBlanks := by
  intro blanks text
  induction blanks with
  | nil => rfl
  | cons b blanks ih =>
    simp only [skipBlanks, blankChars, List.map_cons, ofChars_cons, List.cons_append,
      List.dropWhile_cons, isSpace_blank, if_true] at ih ⊢
    exact ih

theorem skips_token {f : Option Glyph → Reader α} : Skips (peekToken >>= f) :=
  (skips_skipBlanks.bind (f := fun _ => peek)).bind

theorem ends_blanks (hrest : Ends rest) (blanks : List Blank) :
    Ends (Glyph.ofChars (blankChars blanks) ++ rest) := by
  cases blanks with
  | nil => exact hrest
  | cons b blanks =>
    intro g hg
    obtain rfl := Option.some.inj hg
    exact Or.inl (isSpace_blank b)

theorem hexValue_char (h : Hex) : hexValue? (.char h.char) = some h.digit.val := by
  have hall : ∀ (d : Fin 16) (u : Bool), hexValue? (.char (Hex.mk d u).char) = some d.val := by decide
  exact hall h.digit h.upper

variable {done : List Glyph}

theorem scanString_escape (e : Escape) :
    scanString .plain done (Glyph.ofChars e.chars ++ rest) =
      if isLow e.value then .error ⟨.loneSurrogate, Glyph.size rest⟩
      else if isHigh e.value then scanString (.pairSlash e.value) done rest
      else scanString .plain (.char (Char.ofNat e.value) :: done) rest := by
  change scanString (.hex 0 0) done
    (.char e.a.char :: .char e.b.char :: .char e.c.char :: .char e.d.char :: rest) = _
  rw [scanString_hex (by decide) (hexValue_char _), scanString_hex (by decide) (hexValue_char _),
    scanString_hex (by decide) (hexValue_char _)]
  simp only [scanString, hexValue_char, Nat.zero_mul, Nat.zero_add, Nat.reduceAdd, Nat.lt_irrefl,
    if_false, Escape.value]
  rfl

theorem scanString_pairHex {high count value d : Nat} {g : Glyph} (hcount : count < 3)
    (hd : hexValue? g = some d) :
    scanString (.pairHex high count value) done (g :: rest) =
      scanString (.pairHex high (count + 1) (value * 16 + d)) done rest := by
  simp only [scanString, hd, if_pos hcount]

theorem scanString_second {high : Nat} (low : Escape) :
    scanString (.pairSlash high) done (Glyph.ofChars low.chars ++ rest) =
      if isLow low.value then
        scanString .plain (.char (Char.ofNat
          ((high - 0xD800) * 0x400 + (low.value - 0xDC00) + 0x10000)) :: done) rest
      else .error ⟨.loneSurrogate, Glyph.size rest⟩ := by
  change scanString (.pairHex high 0 0) done (.char low.a.char :: .char low.b.char ::
    .char low.c.char :: .char low.d.char :: rest) = _
  rw [scanString_pairHex (by decide) (hexValue_char _),
    scanString_pairHex (by decide) (hexValue_char _),
    scanString_pairHex (by decide) (hexValue_char _)]
  simp only [scanString, hexValue_char, Nat.zero_mul, Nat.zero_add, Nat.reduceAdd, Nat.lt_irrefl,
    if_false, Escape.value]
  rfl

theorem not_isLow_of_isHigh {n : Nat} (h : isHigh n = true) : isLow n = false := by
  simp only [isHigh, isLow, Bool.and_eq_true, decide_eq_true_eq, Bool.and_eq_false_iff,
    decide_eq_false_iff_not] at h ⊢
  omega

theorem scanString_piece {p : Piece} {c : Char} (h : p.char? none = some c) :
    scanString .plain done (Glyph.ofChars p.chars ++ rest) = scanString .plain (.char c :: done) rest := by
  cases p with
  | plain d hd =>
    obtain rfl := Option.some.inj h
    have hcontrol : ¬ d.toNat < 0x20 := Nat.not_lt.2 hd.2.2
    simp only [Piece.chars, ofChars_cons, ofChars_nil, List.cons_append, List.nil_append, scanString,
      Glyph.char.injEq, hd.1, hd.2.1, hcontrol, if_false]
  | short s =>
    obtain rfl := Option.some.inj h
    cases s <;> rfl
  | unit e =>
    cases hsurrogate : e.isSurrogate with
    | true => simp [Piece.char?, hsurrogate] at h
    | false =>
      obtain rfl : Char.ofNat e.value = c := by simpa [Piece.char?, hsurrogate] using h
      obtain ⟨hhigh, hlow⟩ := Bool.or_eq_false_iff.1 hsurrogate
      simp only [Piece.chars, scanString_escape, hhigh, hlow, Bool.false_eq_true, if_false]
  | pair high low hhigh hlow =>
    obtain rfl := Option.some.inj h
    rw [Piece.chars, ofChars_append, List.append_assoc, scanString_escape,
      not_isLow_of_isHigh hhigh, if_neg Bool.false_ne_true, if_pos hhigh, scanString_second, if_pos hlow]

theorem scanString_pieces {ps : List Piece} {cs : List Char} (h : ps.mapM (Piece.char? none) = some cs)
    (done rest : List Glyph) :
    scanString .plain done (Glyph.ofChars (ps.flatMap Piece.chars) ++ .char '"' :: rest) =
      .ok (done.reverse ++ Glyph.ofChars cs, rest) := by
  induction ps generalizing cs done with
  | nil =>
    obtain rfl := Option.some.inj h
    simp [scanString]
  | cons p ps ih =>
    rw [List.mapM_cons] at h
    obtain ⟨c, hc, ds, hds, rfl⟩ : ∃ c, p.char? none = some c ∧
        ∃ ds, ps.mapM (Piece.char? none) = some ds ∧ c :: ds = cs := by
      simpa [Option.bind_eq_some_iff] using h
    rw [List.flatMap_cons, ofChars_append, List.append_assoc, scanString_piece hc, ih hds]
    simp

/-- A string is read as the text that is meant. -/
theorem readString_spelling {s : Spelling} {text : String} (h : s.text? none = some text)
    (rest : List Glyph) : readString (Glyph.ofChars s.rest ++ rest) = .ok (text, rest) := by
  obtain ⟨cs, hcs, rfl⟩ := Option.map_eq_some_iff.1 h
  have hscan : scanString .plain [] (Glyph.ofChars s.rest ++ rest) = .ok (Glyph.ofChars cs, rest) := by
    simpa [Spelling.rest] using scanString_pieces hcs [] rest
  simp only [readString, hscan, strict?_ofChars]

theorem scanSkipped_escape (e : Escape) :
    scanSkipped .plain (Glyph.ofChars e.chars ++ rest) = scanSkipped .plain rest := by
  change scanSkipped (.hex 0)
    (.char e.a.char :: .char e.b.char :: .char e.c.char :: .char e.d.char :: rest) = _
  simp only [scanSkipped, hexValue_char]
  rfl

theorem scanSkipped_piece (p : Piece) :
    scanSkipped .plain (Glyph.ofChars p.chars ++ rest) = scanSkipped .plain rest := by
  cases p with
  | plain c hc =>
    have hcontrol : ¬ c.toNat < 0x20 := Nat.not_lt.2 hc.2.2
    simp only [Piece.chars, ofChars_cons, ofChars_nil, List.cons_append, List.nil_append, scanSkipped,
      Glyph.char.injEq, hc.1, hc.2.1, hcontrol, if_false]
  | short s => cases s <;> rfl
  | unit e => exact scanSkipped_escape e
  | pair high low _ _ =>
    rw [Piece.chars, ofChars_append, List.append_assoc, scanSkipped_escape, scanSkipped_escape]

/-- Any string is passed over. -/
theorem skipString_spelling (s : Spelling) (rest : List Glyph) :
    skipString (Glyph.ofChars s.rest ++ rest) = .ok ((), rest) := by
  rw [Spelling.rest, ofChars_append, List.append_assoc, skipString]
  induction s with
  | nil => rfl
  | cons p s ih => rw [List.flatMap_cons, ofChars_append, List.append_assoc, scanSkipped_piece, ih]

theorem digit?_digitChar (d : Fin 10) : Numeral.digit? (.char (Nat.digitChar d)) = some d.val := by
  revert d
  decide

abbrev NoDigit (rest : List Glyph) : Prop := rest.head?.bind Numeral.digit? = none

theorem digits_digitChars (ds : Digits) (hrest : NoDigit rest) :
    Numeral.digits (Glyph.ofChars (digitChars ds) ++ rest) = (digitNumbers ds, rest) := by
  induction ds with
  | nil =>
    cases rest with
    | nil => rfl
    | cons g rest =>
      have hg : Numeral.digit? g = none := hrest
      simp [digitChars, digitNumbers, Numeral.digits, hg]
  | cons d ds ih =>
    simp only [digitChars, digitNumbers, List.map_cons, ofChars_cons, List.cons_append, Numeral.digits,
      digit?_digitChar] at ih ⊢
    rw [ih]

theorem digit?_lead (lead : Fin 9) :
    Numeral.digit? (.char (Nat.digitChar (lead + 1))) = some (lead.val + 1) :=
  digit?_digitChar lead.succ

theorem digits_lead (lead : Fin 9) (ds : Digits) (hrest : NoDigit rest) :
    Numeral.digits (Glyph.ofChars (Figure.wholeChars (.digits lead ds)) ++ rest) =
      (Figure.wholeDigits (.digits lead ds), rest) :=
  digits_digitChars (lead.succ :: ds) hrest

theorem bind_peek_head {f : Option Glyph → Reader α} (text : List Glyph) :
    (peek >>= f) text = f text.head? text := rfl

theorem wholeDigits_whole (w : Whole) (hrest : NoDigit rest) :
    wholeDigits (Glyph.ofChars (Figure.wholeChars w) ++ rest) = .ok (Figure.wholeDigits w, rest) := by
  cases w with
  | zero =>
    have hzero : Numeral.digit? (.char '0') = some 0 := rfl
    have htext : Glyph.ofChars (Figure.wholeChars .zero) ++ rest = .char '0' :: rest := rfl
    rw [htext]
    refine (bind_peek (g := .char '0')).trans ?_
    simp only [hzero]
    refine bind_advance.trans ?_
    rw [bind_peek_head, hrest]
    rfl
  | digits lead ds =>
    refine (bind_peek (g := .char (Nat.digitChar (lead + 1)))).trans ?_
    simp only [digit?_lead]
    exact congrArg Except.ok (digits_lead lead ds hrest)

theorem skipDigits_digitChars (d : Fin 10) (ds : Digits) (hrest : NoDigit rest) :
    skipDigits (Glyph.ofChars (digitChars (d :: ds)) ++ rest) = .ok ((), rest) :=
  (bind_ok (congrArg Except.ok (digits_digitChars (d :: ds) hrest))).trans rfl

theorem skipWhole_whole (w : Whole) (hrest : NoDigit rest) :
    skipWhole (Glyph.ofChars (Figure.wholeChars w) ++ rest) = .ok ((), rest) := by
  cases w with
  | zero =>
    change (if (rest.head?.bind Numeral.digit?).isSome then failAhead .invalidNumber else pure () :
      Reader Unit) rest = _
    rw [hrest]
    rfl
  | digits lead ds =>
    refine (bind_peek (g := .char (Nat.digitChar (lead + 1)))).trans ?_
    simp only [digit?_lead]
    exact skipDigits_digitChars lead.succ ds hrest

theorem fractionDigits_fraction (ds : Option (Fin 10 × Digits)) (hrest : NoDigit rest)
    (hpoint : rest.head? ≠ some (.char '.')) :
    fractionDigits (Glyph.ofChars (Figure.fractionChars ds) ++ rest) =
      .ok (ds.map fun ds => digitNumbers (ds.1 :: ds.2), rest) := by
  cases ds with
  | none =>
    change (if rest.head? = some (.char '.') then _ else _ : Reader _) rest = _
    rw [if_neg hpoint]
    rfl
  | some ds =>
    refine (bind_peek (g := .char '.')).trans ?_
    rw [if_pos rfl]
    exact bind_advance.trans
      ((bind_ok (congrArg Except.ok (digits_digitChars (ds.1 :: ds.2) hrest))).trans rfl)

theorem skipFraction_fraction (ds : Option (Fin 10 × Digits)) (hrest : NoDigit rest)
    (hpoint : rest.head? ≠ some (.char '.')) :
    skipFraction (Glyph.ofChars (Figure.fractionChars ds) ++ rest) = .ok ((), rest) := by
  cases ds with
  | none =>
    change (if rest.head? = some (.char '.') then _ else _ : Reader _) rest = _
    rw [if_neg hpoint]
    rfl
  | some ds =>
    refine (bind_peek (g := .char '.')).trans ?_
    rw [if_pos rfl]
    exact bind_advance.trans (skipDigits_digitChars ds.1 ds.2 hrest)

structure NoExponent (rest : List Glyph) : Prop where
  digit : NoDigit rest
  lower : rest.head? ≠ some (.char 'e')
  upper : rest.head? ≠ some (.char 'E')

theorem exponentSign_sign (sign : Option Bool) (d : Fin 10) (text : List Glyph) :
    exponentSign (Glyph.ofChars (Figure.signChars sign) ++ .char (Nat.digitChar d) :: text) =
      .ok (sign != some false, .char (Nat.digitChar d) :: text) := by
  match sign with
  | some true => rfl
  | some false => rfl
  | none =>
    have hplus : some (Glyph.char (Nat.digitChar d)) ≠ some (.char '+') := by simp
    have hminus : some (Glyph.char (Nat.digitChar d)) ≠ some (.char '-') := by simp
    refine (bind_peek (g := .char (Nat.digitChar d))).trans ?_
    simp only [hplus, hminus, decide_false, Bool.or_self, Bool.false_eq_true, if_false,
      bne_iff_ne.2 hminus]
    rfl

/-- The text of an exponent as it is taken apart. -/
theorem ofChars_exponent (e : Exponent) (rest : List Glyph) :
    Glyph.ofChars (Figure.exponentChars (some e)) ++ rest =
      .char (if e.upper then 'E' else 'e') :: (Glyph.ofChars (Figure.signChars e.sign) ++
        .char (Nat.digitChar e.first) :: (Glyph.ofChars (digitChars e.rest) ++ rest)) := by
  simp [Figure.exponentChars, digitChars]

theorem exponentDigits_exponent (e : Option Exponent) (hrest : NoExponent rest) :
    exponentDigits (Glyph.ofChars (Figure.exponentChars e) ++ rest) =
      .ok (e.map fun e => (e.sign != some false, digitNumbers (e.first :: e.rest)), rest) := by
  cases e with
  | none =>
    change (if rest.head? = some (.char 'e') || rest.head? = some (.char 'E') then _ else _ :
      Reader _) rest = _
    rw [if_neg (by simp [hrest.lower, hrest.upper])]
    rfl
  | some e =>
    have hdigits := digits_digitChars (e.first :: e.rest) hrest.digit
    rw [ofChars_exponent]
    refine (bind_peek (g := .char _)).trans ?_
    rw [if_pos (by cases e.upper <;> rfl)]
    refine bind_advance.trans ((bind_ok (exponentSign_sign e.sign e.first _)).trans ?_)
    refine (bind_peek (g := .char (Nat.digitChar e.first))).trans ?_
    simp only [digit?_digitChar]
    exact (bind_ok (congrArg Except.ok hdigits)).trans rfl

theorem skipExponent_exponent (e : Option Exponent) (hrest : NoExponent rest) :
    skipExponent (Glyph.ofChars (Figure.exponentChars e) ++ rest) = .ok ((), rest) := by
  cases e with
  | none =>
    change (if rest.head? = some (.char 'e') || rest.head? = some (.char 'E') then _ else _ :
      Reader _) rest = _
    rw [if_neg (by simp [hrest.lower, hrest.upper])]
    rfl
  | some e =>
    rw [ofChars_exponent]
    refine (bind_peek (g := .char _)).trans ?_
    rw [if_pos (by cases e.upper <;> rfl)]
    refine bind_advance.trans ((bind_ok (exponentSign_sign e.sign e.first _)).trans ?_)
    exact skipDigits_digitChars e.first e.rest hrest.digit

theorem noExponent_of_ends (hrest : Ends rest) : NoExponent rest :=
  ⟨digit?_of_ends hrest, ne_of_ends hrest (by decide), ne_of_ends hrest (by decide)⟩

/-- What follows the whole part and the fraction is an exponent or the end. -/
theorem stops_exponent (e : Option Exponent) (hrest : Ends rest) :
    NoDigit (Glyph.ofChars (Figure.exponentChars e) ++ rest) ∧
      (Glyph.ofChars (Figure.exponentChars e) ++ rest).head? ≠ some (.char '.') := by
  cases e with
  | none => exact ⟨digit?_of_ends hrest, ne_of_ends hrest (by decide)⟩
  | some e =>
    rw [ofChars_exponent]
    cases e.upper <;> exact ⟨rfl, nofun⟩

theorem stops_fraction (ds : Option (Fin 10 × Digits)) {text : List Glyph} (htext : NoDigit text) :
    NoDigit (Glyph.ofChars (Figure.fractionChars ds) ++ text) := by
  cases ds with
  | none => exact htext
  | some ds => rfl

theorem wholeChars_ne_minus (w : Whole) (text : List Glyph) :
    (Glyph.ofChars (Figure.wholeChars w) ++ text).head? ≠ some (.char '-') := by
  cases w with
  | zero => exact nofun
  | digits lead ds => simp [Figure.wholeChars]

variable (f : Figure)

/-- A number begins with a minus sign or a digit. -/
theorem figure_begins :
    ∃ c cs, f.chars = c :: cs ∧ (c = '-' ∨ (Numeral.digit? (.char c)).isSome = true) := by
  obtain ⟨negative, whole, fraction, exponent⟩ := f
  cases negative with
  | true => exact ⟨'-', _, rfl, Or.inl rfl⟩
  | false =>
    cases whole with
    | zero => exact ⟨'0', _, rfl, Or.inr rfl⟩
    | digits lead ds => exact ⟨_, _, rfl, Or.inr (by rw [digit?_lead]; rfl)⟩

variable (hrest : Ends rest)
include hrest

theorem readNumeral_figure :
    readNumeral (Glyph.ofChars f.chars ++ rest) = .ok (f.numeral, rest) := by
  obtain ⟨negative, whole, fraction, exponent⟩ := f
  obtain ⟨hdigit, hpoint⟩ := stops_exponent exponent hrest
  have hwhole := wholeDigits_whole whole (stops_fraction fraction hdigit)
  have hfraction := fractionDigits_fraction fraction hdigit hpoint
  have hexponent := exponentDigits_exponent exponent (noExponent_of_ends hrest)
  simp only [Figure.chars, ofChars_append, List.append_assoc]
  cases negative with
  | true =>
    refine (bind_peek (g := .char '-')).trans ?_
    simp only [if_true, decide_true]
    exact bind_advance.trans
      ((bind_ok hwhole).trans ((bind_ok hfraction).trans ((bind_ok hexponent).trans rfl)))
  | false =>
    rw [if_neg Bool.false_ne_true, ofChars_nil, List.nil_append, readNumeral, bind_peek_head]
    simp only [wholeChars_ne_minus, if_false, decide_false]
    exact (bind_ok hwhole).trans ((bind_ok hfraction).trans ((bind_ok hexponent).trans rfl))

theorem skipNumber_figure :
    skipNumber (Glyph.ofChars f.chars ++ rest) = .ok ((), rest) := by
  obtain ⟨negative, whole, fraction, exponent⟩ := f
  obtain ⟨hdigit, hpoint⟩ := stops_exponent exponent hrest
  have hwhole := skipWhole_whole whole (stops_fraction fraction hdigit)
  have hfraction := skipFraction_fraction fraction hdigit hpoint
  have hexponent := skipExponent_exponent exponent (noExponent_of_ends hrest)
  simp only [Figure.chars, ofChars_append, List.append_assoc]
  cases negative with
  | true =>
    refine (bind_peek (g := .char '-')).trans ?_
    rw [if_pos rfl]
    exact bind_advance.trans ((bind_ok hwhole).trans ((bind_ok hfraction).trans hexponent))
  | false =>
    rw [if_neg Bool.false_ne_true, ofChars_nil, List.nil_append, skipNumber, bind_peek_head,
      if_neg (wholeChars_ne_minus _ _)]
    exact (bind_ok hwhole).trans ((bind_ok hfraction).trans hexponent)

end Reader
end SeriesClient.Json
