import SeriesClient.Json.Decode
import Mathlib.Tactic.Common

/-! Readers on the texts that the printer writes. A reader takes what was written off the front of a
text and leaves what follows, provided that this cannot be taken for more of the same; after a value
of a document there follows a blank, a comma, a closing bracket or nothing. -/

namespace SeriesClient.Json.Reader

variable {α β : Type} {r : Reader α} {f : α → Reader β} {a : α} {g : Glyph}
  {text rest : List Glyph}

theorem bind_ok (h : r text = .ok (a, rest)) : (r >>= f) text = f a rest := by
  change (r text >>= fun p => f p.1 p.2) = f a rest
  rw [h]
  rfl

theorem bind_eq_ok_iff {b : β} :
    (r >>= f) text = .ok (b, rest) ↔
      ∃ a mid, r text = .ok (a, mid) ∧ f a mid = .ok (b, rest) := by
  change (r text >>= fun p => f p.1 p.2) = .ok (b, rest) ↔ _
  cases r text with
  | error failure => simp [bind, Except.bind]
  | ok p =>
    obtain ⟨a, mid⟩ := p
    simp [bind, Except.bind]

theorem bind_advance {r : Reader α} : (advance >>= fun _ => r) (g :: rest) = r rest := rfl

theorem peekToken_cons (h : isSpace g = false) :
    peekToken (g :: rest) = .ok (some g, g :: rest) := by
  have hskip : skipBlanks (g :: rest) = .ok ((), g :: rest) := by simp [skipBlanks, h]
  exact bind_ok hskip

theorem bind_token {f : Option Glyph → Reader α} (h : isSpace g = false) :
    (peekToken >>= f) (g :: rest) = f (some g) (g :: rest) :=
  bind_ok (peekToken_cons h)

theorem expectRest_ofChars (cs : List Char) (rest : List Glyph) :
    expectRest cs (Glyph.ofChars cs ++ rest) = .ok ((), rest) := by
  induction cs with
  | nil => rfl
  | cons c cs ih =>
    simp only [Glyph.ofChars, List.map_cons, List.cons_append, expectRest, if_true]
    exact ih

/-- What can follow a value: nothing, a blank, a comma or a closing bracket. -/
def Ends (rest : List Glyph) : Prop :=
  ∀ g ∈ rest.head?, isSpace g = true ∨ g = .char ',' ∨ g = .char ']' ∨ g = .char '\x7d'

theorem ends_nil : Ends [] := nofun

theorem ends_comma : Ends (.char ',' :: rest) := by simp [Ends]

theorem ends_bracket : Ends (.char ']' :: rest) := by simp [Ends]

theorem ends_brace : Ends (.char '\x7d' :: rest) := by simp [Ends]

/-- The reader makes `a` of the text, wherever a value ends. -/
def Reads (r : Reader α) (chars : List Char) (a : α) : Prop :=
  ∀ rest, Ends rest → r (Glyph.ofChars chars ++ rest) = .ok (a, rest)

theorem hexValue_hexDigit (n : Nat) : hexValue? (.char (hexDigit n)) = some (n % 16) := by
  have h : ∀ k < 16, hexValue? (.char (Nat.digitChar k)) = some k := by decide
  exact h (n % 16) (Nat.mod_lt _ (by decide))

theorem scanString_hex {count value d : Nat} {done : List Glyph} (hcount : count < 3)
    (hd : hexValue? g = some d) :
    scanString (.hex count value) done (g :: rest) =
      scanString (.hex (count + 1) (value * 16 + d)) done rest := by
  simp only [scanString, hd, if_pos hcount]

/-- The last digit of an escape below the surrogates. -/
theorem scanString_hex_last {value d : Nat} {done : List Glyph} (hd : hexValue? g = some d)
    (hsmall : value * 16 + d < 0xD800) :
    scanString (.hex 3 value) done (g :: rest) =
      scanString .plain (.char (Char.ofNat (value * 16 + d)) :: done) rest := by
  have hlow : isLow (value * 16 + d) = false := by simp [isLow]; omega
  have hhigh : isHigh (value * 16 + d) = false := by simp [isHigh]; omega
  simp only [scanString, hd, hlow, hhigh]
  rfl

theorem scanString_escapeChar (c : Char) (done rest : List Glyph) :
    scanString .plain done (Glyph.ofChars (escapeChar c) ++ rest) =
      scanString .plain (.char c :: done) rest := by
  unfold escapeChar
  split_ifs with hquote hslash h1 h2 h3 h4 h5 hcontrol
  · subst hquote; rfl
  · subst hslash; rfl
  · subst h1; rfl
  · subst h2; rfl
  · subst h3; rfl
  · subst h4; rfl
  · subst h5; rfl
  · change scanString (.hex 0 0) done (.char '0' :: .char '0' :: .char (hexDigit (c.toNat / 16)) ::
      .char (hexDigit c.toNat) :: rest) = _
    have hzero : hexValue? (.char '0') = some 0 := rfl
    rw [scanString_hex (by decide) hzero, scanString_hex (by decide) hzero,
      scanString_hex (by decide) (hexValue_hexDigit _), scanString_hex_last (hexValue_hexDigit _)
        (by omega)]
    have hvalue : (((0 * 16 + 0) * 16 + 0) * 16 + c.toNat / 16 % 16) * 16 + c.toNat % 16 = c.toNat := by
      omega
    rw [hvalue, Char.ofNat_toNat]
  · simp [Glyph.ofChars, scanString, hquote, hslash, hcontrol]

theorem scanString_escaped (cs : List Char) (done rest : List Glyph) :
    scanString .plain done (Glyph.ofChars (cs.flatMap escapeChar) ++ .char '"' :: rest) =
      .ok (done.reverse ++ Glyph.ofChars cs, rest) := by
  induction cs generalizing done with
  | nil => simp [scanString, Glyph.ofChars]
  | cons c cs ih =>
    have hsplit : Glyph.ofChars ((c :: cs).flatMap escapeChar) ++ .char '"' :: rest =
        Glyph.ofChars (escapeChar c) ++
          (Glyph.ofChars (cs.flatMap escapeChar) ++ .char '"' :: rest) := by
      simp [Glyph.ofChars]
    rw [hsplit, scanString_escapeChar, ih]
    simp [Glyph.ofChars]

theorem strict?_ofChars (cs : List Char) :
    Glyph.strict? (Glyph.ofChars cs) = some (String.ofList cs) := by
  have h : (Glyph.ofChars cs).mapM Glyph.char? = some cs := by
    induction cs with
    | nil => rfl
    | cons c cs ih =>
      rw [Glyph.ofChars] at ih ⊢
      simp [Glyph.char?, ih]
  rw [Glyph.strict?, h]
  rfl

def stringRest (s : String) : List Char := s.toList.flatMap escapeChar ++ ['"']

theorem stringChars_eq (s : String) : stringChars s = '"' :: stringRest s := rfl

/-- A string is read back, whatever its characters are. -/
theorem readString_stringRest (s : String) (rest : List Glyph) :
    readString (Glyph.ofChars (stringRest s) ++ rest) = .ok (s, rest) := by
  have hscan : scanString .plain [] (Glyph.ofChars (stringRest s) ++ rest) =
      .ok (Glyph.ofChars s.toList, rest) := by
    simpa [stringRest, Glyph.ofChars] using scanString_escaped s.toList [] rest
  simp only [readString, hscan, strict?_ofChars, String.ofList_toList]

end SeriesClient.Json.Reader
