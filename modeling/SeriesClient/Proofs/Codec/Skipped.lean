import SeriesClient.Proofs.Codec.Scalars

/-! What values that nobody asks for are written as. A value is passed over only if there is one: the
machine that does it keeps no more of what it has passed than the brackets that are open, and yet all
that it takes off a text is a value, as the grammar has it. -/

namespace SeriesClient.Json

namespace Reader

open Source (commas)

variable {α : Type} {cs : List Char} {text left : List Glyph}

/-- What a reader that looks for something finds behind blanks. -/
theorem token_written {f : Option Glyph → Reader α} {p : α × List Glyph}
    (h : (peekToken >>= f) (Glyph.ofChars cs) = .ok p) (hnone : f none [] ≠ .ok p) :
    ∃ (blanks : List Blank) (c : Char) (tail : List Char), cs = blankChars blanks ++ c :: tail ∧
      f (some (.char c)) (.char c :: Glyph.ofChars tail) = .ok p := by
  obtain ⟨blanks, back, rfl, hdrop, -⟩ := blanks_written cs
  have htoken : (peekToken >>= f) (Glyph.ofChars (blankChars blanks ++ back)) =
      f ((Glyph.ofChars back).head?) (Glyph.ofChars back) := by
    refine bind_ok ?_
    change Except.ok (((Glyph.ofChars (blankChars blanks ++ back)).dropWhile isSpace).head?,
      (Glyph.ofChars (blankChars blanks ++ back)).dropWhile isSpace) = _
    rw [hdrop]
  rw [htoken] at h
  cases back with
  | nil => exact absurd h hnone
  | cons c tail => exact ⟨blanks, c, tail, rfl, h⟩

theorem expectRest_written {word : List Char}
    (h : expectRest word (Glyph.ofChars cs) = .ok ((), left)) :
    ∃ back, cs = word ++ back ∧ left = Glyph.ofChars back := by
  induction word generalizing cs with
  | nil =>
    cases h
    exact ⟨cs, rfl, rfl⟩
  | cons c word ih =>
    cases cs with
    | nil => cases h
    | cons c' cs =>
      simp only [ofChars_cons, expectRest] at h
      split_ifs at h with hc
      obtain ⟨back, rfl, hleft⟩ := ih h
      cases hc
      exact ⟨back, rfl, hleft⟩

theorem word_written {r : Reader α} {g : Glyph} {word : List Char} {p : α × List Glyph}
    (h : (do advance; expectRest word; r : Reader α) (g :: Glyph.ofChars cs) = .ok p) :
    ∃ back, cs = word ++ back ∧ r (Glyph.ofChars back) = .ok p := by
  obtain ⟨_, mid, hword, hgo⟩ := bind_eq_ok_iff.1 (bind_advance.symm.trans h)
  obtain ⟨back, rfl, rfl⟩ := expectRest_written hword
  exact ⟨back, rfl, hgo⟩

variable {β : Type} {f : Option Glyph → Reader α}

def passed (found : Option (α × List Glyph)) : Option (Unit × List Glyph) := found.map fun p => ((), p.2)

theorem outcome_peek (text : List Glyph) : outcome (peek >>= f) text = outcome (f text.head?) text :=
  outcome_bind_ok rfl

theorem outcome_advance {f : Unit → Reader α} (g : Glyph) (text : List Glyph) :
    outcome (advance >>= f) (g :: text) = outcome (f ()) text :=
  outcome_bind_ok rfl

theorem outcome_digits {f : List Nat → Reader α} (text : List Glyph) :
    outcome ((fun text => .ok (Numeral.digits text) : Reader (List Nat)) >>= f) text =
      outcome (f (Numeral.digits text).1) (Numeral.digits text).2 :=
  outcome_bind_ok rfl

theorem outcome_skipDigits {g : Glyph} {d : Nat} (hd : Numeral.digit? g = some d) :
    outcome skipDigits (g :: text) = some ((), (Numeral.digits (g :: text)).2) := by
  have hne : (Numeral.digits (g :: text)).1.isEmpty = false := by
    rw [Numeral.digits, hd]
    rfl
  rw [skipDigits, outcome_digits, hne]
  rfl

theorem outcome_skipWhole (text : List Glyph) :
    outcome skipWhole text = passed (outcome wholeDigits text) := by
  rw [skipWhole, wholeDigits, outcome_peek, outcome_peek]
  cases text with
  | nil => rfl
  | cons g text =>
    simp only [List.head?_cons]
    split
    · rfl
    · rw [outcome_advance, outcome_advance, outcome_peek, outcome_peek]
      cases text.head?.bind Numeral.digit? <;> rfl
    · next d hd => exact outcome_skipDigits hd

theorem outcome_skipFraction (text : List Glyph) :
    outcome skipFraction text = passed (outcome fractionDigits text) := by
  rw [skipFraction, fractionDigits, outcome_peek, outcome_peek]
  split_ifs with hpoint
  · obtain ⟨tail, rfl⟩ := List.head?_eq_some_iff.1 hpoint
    rw [outcome_advance, outcome_advance, skipDigits, outcome_digits, outcome_digits]
    split_ifs
    · rw [outcome_peek]
      split <;> rfl
    · rfl
  · rfl

theorem outcome_skipExponent (text : List Glyph) :
    outcome skipExponent text = passed (outcome exponentDigits text) := by
  rw [skipExponent, exponentDigits, outcome_peek, outcome_peek]
  split_ifs with hmark
  · obtain ⟨g, tail, rfl⟩ : ∃ g tail, text = g :: tail := by
      cases text with
      | nil => cases hmark
      | cons g tail => exact ⟨g, tail, rfl⟩
    rw [outcome_advance, outcome_advance, outcome_bind, outcome_bind]
    cases outcome exponentSign tail with
    | none => rfl
    | some p =>
      obtain ⟨plus, rest⟩ := p
      simp only [Option.bind_some]
      rw [outcome_peek]
      cases rest with
      | nil => rfl
      | cons g rest =>
        simp only [List.head?_cons]
        split
        · next hd =>
          rw [skipDigits, outcome_digits, Numeral.digits, hd]
          rfl
        · next d hd =>
          rw [outcome_digits, outcome_skipDigits hd]
          rfl
  · rfl

/-- A number is passed over just if its numeral can be read. -/
theorem outcome_skipNumber (text : List Glyph) :
    outcome skipNumber text = passed (outcome readNumeral text) := by
  have hparts (negative : Bool) (text : List Glyph) :
      outcome (do skipWhole; skipFraction; skipExponent : Reader Unit) text =
        passed (outcome (do
          let whole ← wholeDigits
          let fraction ← fractionDigits
          let exponent ← exponentDigits
          pure ⟨negative, whole, fraction, exponent⟩ : Reader Numeral) text) := by
    rw [outcome_bind, outcome_skipWhole, outcome_bind]
    cases outcome wholeDigits text with
    | none => rfl
    | some p =>
      simp only [passed, Option.map_some, Option.bind_some]
      rw [outcome_bind, outcome_skipFraction, outcome_bind]
      cases outcome fractionDigits p.2 with
      | none => rfl
      | some p =>
        simp only [passed, Option.map_some, Option.bind_some]
        rw [outcome_skipExponent, outcome_bind]
        cases outcome exponentDigits p.2 <;> rfl
  rw [skipNumber, readNumeral, outcome_peek, outcome_peek]
  by_cases hminus : text.head? = some (.char '-')
  · obtain ⟨tail, rfl⟩ := List.head?_eq_some_iff.1 hminus
    simp only [List.head?_cons, decide_true, if_true]
    rw [outcome_advance, outcome_advance]
    exact hparts true tail
  · simp only [hminus, decide_false, if_false]
    exact hparts false text

theorem skipNumber_written (h : skipNumber (Glyph.ofChars cs) = .ok ((), left)) :
    ∃ (f : Figure) (back : List Char), cs = f.chars ++ back ∧ left = Glyph.ofChars back := by
  rw [← outcome_eq_some_iff, outcome_skipNumber] at h
  obtain ⟨⟨numeral, rest⟩, hnumeral, hp⟩ := Option.map_eq_some_iff.1 h
  cases hp
  obtain ⟨f, back, hcs, hleft, -⟩ := readNumeral_written (outcome_eq_some_iff.1 hnumeral)
  exact ⟨f, back, hcs, hleft⟩

theorem skippedHex_written {count : Nat}
    (h : scanSkipped (.hex count) (Glyph.ofChars cs) = .ok ((), left)) :
    ∃ (k : Hex) (tail : List Char), cs = k.char :: tail ∧
      (count < 3 → scanSkipped (.hex (count + 1)) (Glyph.ofChars tail) = .ok ((), left)) := by
  cases cs with
  | nil => cases h
  | cons c tail =>
    simp only [ofChars_cons, scanSkipped] at h
    cases hc : hexValue? (.char c) with
    | none =>
      simp only [hc] at h
      cases h
    | some d =>
      obtain ⟨k, rfl, -⟩ := exists_hex hc
      refine ⟨k, tail, rfl, fun hcount => ?_⟩
      simpa only [hc, hcount, if_true] using h

/-- Behind a backslash there stands what makes an escape of it. -/
theorem skippedEscape_written (h : scanSkipped .escape (Glyph.ofChars cs) = .ok ((), left)) :
    ∃ (p : Piece) (tail : List Char), '\\' :: cs = p.chars ++ tail := by
  cases cs with
  | nil => cases h
  | cons c cs =>
    by_cases hu : c = 'u'
    · subst hu
      have hhex : scanSkipped (.hex 0) (Glyph.ofChars cs) = .ok ((), left) := h
      obtain ⟨a, cs, rfl, ha⟩ := skippedHex_written hhex
      obtain ⟨b, cs, rfl, hb⟩ := skippedHex_written (ha (by decide))
      obtain ⟨c, cs, rfl, hc⟩ := skippedHex_written (hb (by decide))
      obtain ⟨d, cs, rfl, -⟩ := skippedHex_written (hc (by decide))
      exact ⟨.unit ⟨a, b, c, d⟩, cs, rfl⟩
    · simp only [ofChars_cons, scanSkipped] at h
      split_ifs at h with hsome
      obtain ⟨e, he⟩ := Option.isSome_iff_exists.1 hsome
      obtain ⟨s, rfl, -⟩ := escaped?_written he
      exact ⟨.short s, cs, rfl⟩

/-- A string that is passed over ends, or something follows that can stand in a string. -/
theorem skippedPiece_written (h : scanSkipped .plain (Glyph.ofChars cs) = .ok ((), left)) :
    (∃ back, cs = '"' :: back ∧ left = Glyph.ofChars back) ∨
      ∃ (p : Piece) (tail : List Char), cs = p.chars ++ tail := by
  cases cs with
  | nil => cases h
  | cons c cs =>
    by_cases hquote : c = '"'
    · subst hquote
      cases h
      exact .inl ⟨cs, rfl, rfl⟩
    right
    by_cases hslash : c = '\\'
    · subst hslash
      exact skippedEscape_written h
    · simp only [ofChars_cons, scanSkipped, Glyph.char.injEq, hquote, hslash, if_false] at h
      split_ifs at h with hcontrol
      exact ⟨.plain c ⟨hquote, hslash, Nat.not_lt.1 hcontrol⟩, cs, rfl⟩

theorem length_chars_pos (p : Piece) : 0 < p.chars.length := by
  cases p <;> simp [Piece.chars, Escape.chars]

/-- A string that is passed over is written as one. -/
theorem skipString_written (h : skipString (Glyph.ofChars cs) = .ok ((), left)) :
    ∃ (s : Spelling) (back : List Char), cs = s.rest ++ back ∧ left = Glyph.ofChars back := by
  induction hn : cs.length using Nat.strongRecOn generalizing cs with
  | ind n ih =>
    subst hn
    rcases skippedPiece_written h with ⟨back, rfl, hleft⟩ | ⟨p, tail, rfl⟩
    · exact ⟨[], back, rfl, hleft⟩
    · rw [skipString, ofChars_append, scanSkipped_piece] at h
      have hshorter : tail.length < (p.chars ++ tail).length := by
        have hpos := length_chars_pos p
        rw [List.length_append]
        omega
      obtain ⟨s, back, rfl, hleft⟩ := ih _ hshorter h rfl
      exact ⟨p :: s, back, by simp [Spelling.rest], hleft⟩

theorem colon_written (h : colon (Glyph.ofChars cs) = .ok ((), left)) :
    ∃ (gap : List Blank) (back : List Char), cs = blankChars gap ++ ':' :: back ∧
      left = Glyph.ofChars back := by
  obtain ⟨gap, c, tail, rfl, hnext⟩ := token_written h (by nofun)
  dsimp only at hnext
  split_ifs at hnext with hc
  · cases hc
    cases hnext
    exact ⟨gap, tail, rfl, rfl⟩
  · cases hnext

theorem skipName_written (h : skipName (Glyph.ofChars cs) = .ok ((), left)) :
    ∃ (lead back : List Char), Leads .object lead ∧ cs = lead ++ back ∧ left = Glyph.ofChars back := by
  obtain ⟨before, c, tail, rfl, hnext⟩ := token_written h (by nofun)
  dsimp only at hnext
  split_ifs at hnext with hc
  · cases hc
    obtain ⟨_, mid, hstring, hcolon⟩ := bind_eq_ok_iff.1 (bind_advance.symm.trans hnext)
    obtain ⟨s, back, rfl, rfl⟩ := skipString_written hstring
    obtain ⟨after, back, rfl, hleft⟩ := colon_written hcolon
    refine ⟨_, back, .member ⟨before, s, after⟩, ?_, hleft⟩
    simp [Padded.chars, Padded.map, Spelling.chars]
  · cases hnext

variable {n m : Nat} {b : Bracket} {outer : List Bracket}

/-- How a text goes on behind a value in brackets, or behind the bracket that has just been opened:
the bracket is closed, or the next value is there, with its name if it has one. -/
inductive GoesOn (n m : Nat) (b : Bracket) (outer : List Bracket) (left : List Glyph) :
    Bool → List Char → Prop where
  | closes {opened : Bool} (gap : List Blank) {back : List Char}
      (h : resume n m outer false (Glyph.ofChars back) = .ok ((), left)) :
      GoesOn n m b outer left opened (blankChars gap ++ closing b :: back)
  | next (gap : List Blank) {lead back : List Char} (hlead : Leads b lead)
      (h : skipValues m (b :: outer) (Glyph.ofChars back) = .ok ((), left)) :
      GoesOn n m b outer left false (blankChars gap ++ ',' :: (lead ++ back))
  | enters (gap : List Blank) {lead back : List Char} (hlead : Leads b lead)
      (h : skipValues m (b :: outer) (Glyph.ofChars back) = .ok ((), left)) :
      GoesOn n m b outer left true (blankChars gap ++ (lead ++ back))

theorem lead_written {found : Option (List Bracket)}
    (h : (do
      if b = .object then skipName
      pure (some (b :: outer)) : Reader (Option (List Bracket))) (Glyph.ofChars cs) = .ok (found, left)) :
    ∃ lead back, Leads b lead ∧ cs = lead ++ back ∧ left = Glyph.ofChars back ∧
      found = some (b :: outer) := by
  cases b with
  | list =>
    cases h
    exact ⟨[], cs, .item, rfl, rfl, rfl⟩
  | object =>
    obtain ⟨_, mid, hname, hpure⟩ := bind_eq_ok_iff.1 h
    obtain ⟨lead, back, hlead, hcs, rfl⟩ := skipName_written hname
    cases hpure
    exact ⟨lead, back, hlead, hcs, rfl, rfl⟩

theorem goesOn_of_resume {opened : Bool}
    (h : resume (n + 1) m (b :: outer) opened (Glyph.ofChars cs) = .ok ((), left)) :
    GoesOn n m b outer left opened cs := by
  obtain ⟨found, mid, hskip, hgo⟩ := bind_eq_ok_iff.1 h
  obtain ⟨gap, c, tail, rfl, hnext⟩ := token_written hskip (by nofun)
  dsimp only at hnext
  by_cases hcomma : (Glyph.char c = .char ',' && !opened) = true
  · obtain ⟨rfl, rfl⟩ : c = ',' ∧ opened = false := by simpa using hcomma
    rw [if_pos hcomma] at hnext
    obtain ⟨lead, back, hlead, rfl, rfl, rfl⟩ := lead_written (bind_advance.symm.trans hnext)
    exact .next gap hlead hgo
  rw [if_neg hcomma] at hnext
  by_cases hclosing : c = closing b
  · subst hclosing
    have hfound : skipToValue n outer false (Glyph.ofChars tail) = .ok (found, mid) := by
      cases b <;> exact bind_advance.symm.trans hnext
    exact .closes gap ((bind_ok hfound).trans hgo)
  rw [if_neg (by cases b <;> simpa [closing] using hclosing)] at hnext
  cases opened with
  | false => cases hnext
  | true =>
    rw [← ofChars_cons] at hnext
    obtain ⟨lead, back, hlead, hcs, rfl, rfl⟩ := lead_written hnext
    rw [hcs]
    exact .enters gap hlead hgo

/-- What is passed over with so much fuel begins with a value, behind which it goes on with less. -/
def BeginsWithValue (m : Nat) : Prop :=
  ∀ ⦃cs outer left⦄, skipValues m outer (Glyph.ofChars cs) = .ok ((), left) →
    ∃ (blanks : List Blank) (t : Source) (back : List Char), cs = blankChars blanks ++ (t.chars ++ back) ∧
      ∃ n k, k < m ∧ resume n k outer false (Glyph.ofChars back) = .ok ((), left)

/-- What stands in brackets, from the opening one or from behind a value on: entries, and the closing
bracket, behind which it goes on. -/
def Encloses (m : Nat) (b : Bracket) (outer : List Bracket) (left : List Glyph)
    (write : List Entry → List Char) (cs : List Char) : Prop :=
  ∃ (gap : List Blank) (entries : List Entry) (back : List Char),
    cs = blankChars gap ++ (write entries ++ closing b :: back) ∧ (∀ e ∈ entries, Leads b e.1) ∧
      ∃ n k, k ≤ m ∧ resume n k outer false (Glyph.ofChars back) = .ok ((), left)

/-- Behind a value in brackets there come the values that follow it and the closing bracket. -/
def Follows (m : Nat) : Prop :=
  ∀ ⦃n b outer cs left⦄, resume n m (b :: outer) false (Glyph.ofChars cs) = .ok ((), left) →
    Encloses m b outer left followEntries cs

theorem not_resume_zero {opened : Bool} : resume 0 m outer opened text ≠ .ok ((), left) := nofun

theorem follows_of_begins (hbegins : BeginsWithValue m) (hfollows : ∀ k < m, Follows k) : Follows m := by
  intro n b outer cs left h
  cases n with
  | zero => exact absurd h not_resume_zero
  | succ n =>
    cases goesOn_of_resume h with
    | closes gap hgo => exact ⟨gap, [], _, rfl, nofun, n, m, Nat.le_refl m, hgo⟩
    | next gap hlead hvalue =>
      obtain ⟨blanks, t, back, rfl, n', k, hk, hrest⟩ := hbegins hvalue
      obtain ⟨gap', entries, back, rfl, hentries, n', k', hk', hgo⟩ := hfollows k hk hrest
      refine ⟨gap, (_, ⟨blanks, t, gap'⟩) :: entries, back, ?_, List.forall_mem_cons.2 ⟨hlead, hentries⟩,
        n', k', by omega, hgo⟩
      simp [followEntries, further, Entry.chars, Padded.chars, Padded.map]

/-- Between two brackets there are entries with commas between them. -/
theorem encloses_of_opened (hbegins : BeginsWithValue m) (hfollows : ∀ k < m, Follows k)
    (h : resume (n + 1) m (b :: outer) true (Glyph.ofChars cs) = .ok ((), left)) :
    Encloses m b outer left (fun entries => commas (entries.map Entry.chars)) cs := by
  cases goesOn_of_resume h with
  | closes gap hgo => exact ⟨gap, [], _, rfl, nofun, n, m, Nat.le_refl m, hgo⟩
  | enters gap hlead hvalue =>
    obtain ⟨blanks, t, back, rfl, n', k, hk, hrest⟩ := hbegins hvalue
    obtain ⟨gap', entries, back, rfl, hentries, n', k', hk', hgo⟩ := hfollows k hk hrest
    refine ⟨gap, (_, ⟨blanks, t, gap'⟩) :: entries, back, ?_, List.forall_mem_cons.2 ⟨hlead, hentries⟩,
      n', k', by omega, hgo⟩
    simp [commas_cons, followEntries, Entry.chars, Padded.chars, Padded.map]

def opening : Bracket → Char
  | .list => '['
  | .object => '\x7b'

theorem exists_items {entries : List Entry} (h : ∀ e ∈ entries, Leads .list e.1) :
    ∃ items : List (Padded Source), entries = items.map fun item => ([], item) := by
  induction entries with
  | nil => exact ⟨[], rfl⟩
  | cons e entries ih =>
    obtain ⟨hlead, hentries⟩ := List.forall_mem_cons.1 h
    obtain ⟨items, rfl⟩ := ih hentries
    obtain ⟨lead, item⟩ := e
    cases hlead
    exact ⟨item :: items, rfl⟩

theorem exists_members {entries : List Entry} (h : ∀ e ∈ entries, Leads .object e.1) :
    ∃ members : List (Padded Spelling × Padded Source), entries = members.map fun m =>
      ((m.1.map Spelling.chars).chars ++ [':'], m.2) := by
  induction entries with
  | nil => exact ⟨[], rfl⟩
  | cons e entries ih =>
    obtain ⟨hlead, hentries⟩ := List.forall_mem_cons.1 h
    obtain ⟨members, rfl⟩ := ih hentries
    obtain ⟨lead, item⟩ := e
    cases hlead with
    | member name => exact ⟨(name, item) :: members, rfl⟩

/-- Entries in brackets are a list with its elements or an object with its members. -/
theorem exists_source {entries : List Entry} (h : ∀ e ∈ entries, Leads b e.1) (gap : List Blank) :
    ∃ t : Source, t.chars =
      opening b :: (blankChars gap ++ (commas (entries.map Entry.chars) ++ [closing b])) := by
  cases b with
  | list =>
    obtain ⟨items, rfl⟩ := exists_items h
    exact ⟨.array gap items, by rw [Source.chars, itemTexts_entries]; rfl⟩
  | object =>
    obtain ⟨members, rfl⟩ := exists_members h
    exact ⟨.object gap members, by rw [Source.chars, memberTexts_entries]; rfl⟩

theorem beginsWithValue_succ (hbegins : BeginsWithValue m) (hfollows : ∀ k < m, Follows k) :
    BeginsWithValue (m + 1) := by
  intro cs outer left h
  obtain ⟨blanks, c, tail, rfl, hnext⟩ := token_written h (by nofun)
  suffices hvalue : ∃ (t : Source) (back : List Char), c :: tail = t.chars ++ back ∧
      ∃ n k, k < m + 1 ∧ resume n k outer false (Glyph.ofChars back) = .ok ((), left) by
    obtain ⟨t, back, hcs, hgo⟩ := hvalue
    exact ⟨blanks, t, back, by rw [hcs], hgo⟩
  have hbrackets {b : Bracket} (hc : c = opening b)
      (h : resume (m + 1) m (b :: outer) true (Glyph.ofChars tail) = .ok ((), left)) :
      ∃ (t : Source) (back : List Char), c :: tail = t.chars ++ back ∧
        ∃ n k, k < m + 1 ∧ resume n k outer false (Glyph.ofChars back) = .ok ((), left) := by
    obtain ⟨gap, entries, back, rfl, hentries, n, k, hk, hgo⟩ := encloses_of_opened hbegins hfollows h
    obtain ⟨t, ht⟩ := exists_source hentries gap
    exact ⟨t, back, by simp [ht, hc], n, k, by omega, hgo⟩
  dsimp only at hnext
  split_ifs at hnext with hnull hyes hno hnumber hstring hlist hobject
  · subst hnull
    obtain ⟨back, rfl, hgo⟩ := word_written hnext
    exact ⟨.null, back, rfl, m + 1, m, Nat.lt_succ_self m, hgo⟩
  · subst hyes
    obtain ⟨back, rfl, hgo⟩ := word_written hnext
    exact ⟨.bool true, back, rfl, m + 1, m, Nat.lt_succ_self m, hgo⟩
  · subst hno
    obtain ⟨back, rfl, hgo⟩ := word_written hnext
    exact ⟨.bool false, back, rfl, m + 1, m, Nat.lt_succ_self m, hgo⟩
  · obtain ⟨_, mid, hskip, hgo⟩ := bind_eq_ok_iff.1 hnext
    rw [← ofChars_cons] at hskip
    obtain ⟨f, back, hcs, rfl⟩ := skipNumber_written hskip
    exact ⟨.number f, back, hcs, m + 1, m, Nat.lt_succ_self m, hgo⟩
  · subst hstring
    obtain ⟨_, mid, hskip, hgo⟩ := bind_eq_ok_iff.1 (bind_advance.symm.trans hnext)
    obtain ⟨s, back, rfl, rfl⟩ := skipString_written hskip
    exact ⟨.string s, back, rfl, m + 1, m, Nat.lt_succ_self m, hgo⟩
  · exact hbrackets (b := .list) hlist (bind_advance.symm.trans hnext)
  · exact hbrackets (b := .object) hobject (bind_advance.symm.trans hnext)
  · cases hnext

theorem begins_and_follows (m : Nat) : BeginsWithValue m ∧ Follows m := by
  induction m using Nat.strongRecOn with
  | ind m ih =>
    have hbegins : BeginsWithValue m := by
      cases m with
      | zero => nofun
      | succ m =>
        exact beginsWithValue_succ (ih m (Nat.lt_succ_self m)).1 fun k hk => (ih k (Nat.lt_succ_of_lt hk)).2
    exact ⟨hbegins, follows_of_begins hbegins fun k hk => (ih k hk).2⟩

/-- What is passed over is a value. -/
theorem skipValue_written (h : skipValue (Glyph.ofChars cs) = .ok ((), left)) :
    ∃ (blanks : List Blank) (t : Source) (back : List Char), cs = blankChars blanks ++ (t.chars ++ back) ∧
      left = Glyph.ofChars back := by
  obtain ⟨blanks, t, back, hcs, n, k, -, hgo⟩ := (begins_and_follows _).1 h
  refine ⟨blanks, t, back, hcs, ?_⟩
  cases n with
  | zero => exact absurd hgo not_resume_zero
  | succ n =>
    cases hgo
    rfl

end Reader
end SeriesClient.Json
