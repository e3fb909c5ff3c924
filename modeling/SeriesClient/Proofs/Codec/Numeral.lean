import SeriesClient.Proofs.Codec.Reads

/-! Numbers as the printer writes them and the reader takes them. A numeral ends where no digit, point
or exponent follows, so what is read from a numeral that stands alone is read from it in a document.
Integers of 64 bits read back as they are. -/

namespace SeriesClient.Json

namespace Reader

variable {α β : Type} {r : Reader α} {f : α → Reader β} {g : Glyph} {text rest left : List Glyph}

/-- What a reader takes from a text that stands alone it takes where a value ends, too. -/
def Local (r : Reader α) : Prop :=
  ∀ ⦃text rest a left⦄, Ends rest → r text = .ok (a, left) → r (text ++ rest) = .ok (a, left ++ rest)

/-- The same on the texts that begin with an item. -/
def LocalAt (g : Glyph) (r : Reader α) : Prop :=
  ∀ ⦃text rest a left⦄, Ends rest → r (g :: text) = .ok (a, left) →
    r (g :: (text ++ rest)) = .ok (a, left ++ rest)

theorem Local.at (h : Local r) (g : Glyph) : LocalAt g r := fun _ _ _ _ hrest hr => h hrest hr

theorem Local.bind (hr : Local r) (hf : ∀ a, Local (f a)) : Local (r >>= f) := by
  intro text rest b left hrest h
  obtain ⟨a, mid, ha, hb⟩ := bind_eq_ok_iff.1 h
  exact (bind_ok (hr hrest ha)).trans (hf a hrest hb)

theorem LocalAt.advance (h : Local r) : LocalAt g (advance >>= fun _ => r) :=
  fun _ _ _ _ hrest hr => h hrest hr

theorem Local.pure (a : α) : Local (pure a : Reader α) := by
  intro text rest b left _ h
  cases h
  rfl

theorem Local.failAhead (fault : Fault) : Local (failAhead fault : Reader α) :=
  fun _ _ _ _ _ h => nomatch h

/-- A reader that looks at the next item may also find the end, where what follows a value does not
change what it finds. -/
theorem Local.peek {f : Option Glyph → Reader α} (hsome : ∀ g, LocalAt g (f (some g)))
    (hnone : ∀ ⦃rest a left⦄, Ends rest → f none [] = .ok (a, left) →
      f rest.head? rest = .ok (a, left ++ rest)) : Local (peek >>= f) := by
  intro text rest a left hrest h
  cases text with
  | nil => exact hnone hrest h
  | cons g text => exact hsome g hrest h

theorem isSpace_iff {g : Glyph} :
    isSpace g = true ↔ g = .char ' ' ∨ g = .char '\n' ∨ g = .char '\t' ∨ g = .char '\r' := by
  cases g <;> simp [isSpace, or_assoc]

theorem digit?_of_ends (hrest : Ends rest) : rest.head?.bind Numeral.digit? = none := by
  cases rest with
  | nil => rfl
  | cons g rest =>
    rcases hrest g rfl with hspace | rfl | rfl | rfl
    · rcases isSpace_iff.1 hspace with rfl | rfl | rfl | rfl <;> rfl
    all_goals rfl

theorem ne_of_ends (hrest : Ends rest) {c : Char}
    (hc : isSpace (.char c) = false ∧ c ≠ ',' ∧ c ≠ ']' ∧ c ≠ '\x7d') :
    rest.head? ≠ some (.char c) := by
  intro hhead
  rcases hrest _ hhead with h | h | h | h
  · rw [hc.1] at h
    cases h
  · exact hc.2.1 (Glyph.char.inj h)
  · exact hc.2.2.1 (Glyph.char.inj h)
  · exact hc.2.2.2 (Glyph.char.inj h)

theorem bind_peek {f : Option Glyph → Reader α} :
    (Reader.peek >>= f) (g :: text) = f (some g) (g :: text) := rfl

theorem digits_append (hrest : Ends rest) (text : List Glyph) :
    Numeral.digits (text ++ rest) =
      ((Numeral.digits text).1, (Numeral.digits text).2 ++ rest) := by
  induction text with
  | nil =>
    have hnone := digit?_of_ends hrest
    cases rest with
    | nil => rfl
    | cons g rest => simp_all [Numeral.digits]
  | cons g text ih =>
    simp only [List.cons_append, Numeral.digits, ih]
    cases Numeral.digit? g <;> rfl

theorem digits_local : Local (fun text => .ok (Numeral.digits text)) := by
  intro text rest ds left hrest h
  obtain h := Except.ok.inj h
  change Except.ok (Numeral.digits (text ++ rest)) = _
  rw [digits_append hrest, h]

theorem wholeDigits_local : Local wholeDigits := by
  refine .peek (fun g => ?_) fun _ _ _ _ h => nomatch h
  dsimp only
  split
  · exact (Local.failAhead _).at g
  · refine .advance (.peek (fun g' => ?_) fun rest ds left hrest h => ?_)
    · split
      · exact (Local.failAhead _).at g'
      · exact (Local.pure _).at g'
    · rw [digit?_of_ends hrest]
      cases h
      rfl
  · exact digits_local.at g

theorem fractionDigits_local : Local fractionDigits := by
  refine .peek (fun g => ?_) fun rest ds left hrest h => ?_
  · split
    · refine .advance (digits_local.bind fun ds => ?_)
      split
      · refine .peek (fun g' => (Local.failAhead _).at g') fun _ _ _ _ h => nomatch h
      · exact .pure _
    · exact (Local.pure _).at g
  · rw [if_neg (ne_of_ends hrest (by decide))]
    cases h
    rfl

/-- The digits of an exponent, of which there must be one. -/
theorem Local.someDigits (plus : Bool) : Local (Reader.peek >>= fun
    | none => Reader.failHere .endInValue
    | some g =>
      match Numeral.digit? g with
      | none => Reader.failAhead .invalidNumber
      | some _ => do
        let ds ← fun text => .ok (Numeral.digits text)
        Pure.pure (some (plus, ds))) := by
  refine .peek (fun g => ?_) fun _ _ _ _ h => nomatch h
  dsimp only
  split
  · exact (Local.failAhead _).at g
  · exact (digits_local.bind fun ds => .pure _).at g

theorem exponentSign_local : Local exponentSign := by
  refine .peek (fun g => ?_) fun rest plus left hrest h => ?_
  · split
    · exact .advance (.pure _)
    · exact (Local.pure _).at g
  · have hplus := ne_of_ends hrest (c := '+') (by decide)
    have hminus := ne_of_ends hrest (c := '-') (by decide)
    simp only [hplus, hminus, decide_false, Bool.or_self, Bool.false_eq_true, if_false,
      bne_iff_ne.2 hminus]
    cases h
    rfl

theorem exponentDigits_local : Local exponentDigits := by
  refine .peek (fun g => ?_) fun rest ds left hrest h => ?_
  · split
    · exact .advance (exponentSign_local.bind .someDigits)
    · exact (Local.pure _).at g
  · have hlower := ne_of_ends hrest (c := 'e') (by decide)
    have hupper := ne_of_ends hrest (c := 'E') (by decide)
    simp only [hlower, hupper, decide_false, Bool.or_self, Bool.false_eq_true, if_false]
    cases h
    rfl

theorem readNumeral_local : Local readNumeral := by
  have hparts : ∀ negative, Local (do
      let whole ← wholeDigits
      let fraction ← fractionDigits
      let exponent ← exponentDigits
      Pure.pure (⟨negative, whole, fraction, exponent⟩ : Numeral)) := fun negative =>
    wholeDigits_local.bind fun _ => fractionDigits_local.bind fun _ =>
      exponentDigits_local.bind fun _ => .pure _
  refine .peek (fun g => ?_) fun _ _ _ _ h => nomatch h
  dsimp only
  split
  · exact .advance (hparts _)
  · exact (hparts _).at g

theorem readNumber_local : Local readNumber := by
  refine readNumeral_local.bind fun numeral => ?_
  split
  · exact .pure _
  · exact fun _ _ _ _ _ h => nomatch h

theorem Local.reads {a : α} {chars : List Char} (h : Local r)
    (hr : r (Glyph.ofChars chars) = .ok (a, [])) : Reads r chars a :=
  fun _ hrest => h hrest hr

def digitValues (cs : List Char) : List Nat := cs.map fun c => c.toNat - 48

theorem digit?_of_isDigit {c : Char} (h : c.isDigit = true) :
    Numeral.digit? (.char c) = some (c.toNat - 48) := by
  rw [Char.isDigit_iff_toNat] at h
  have hrange : ('0' ≤ c && c ≤ '9') = true := by
    simp only [Bool.and_eq_true, decide_eq_true_eq, Char.le_def, UInt32.le_iff_toNat_le]
    exact h
  simp only [Numeral.digit?, hrange, if_true]

theorem digits_ofChars {cs : List Char} (h : ∀ c ∈ cs, c.isDigit = true) :
    Numeral.digits (Glyph.ofChars cs) = (digitValues cs, []) := by
  induction cs with
  | nil => rfl
  | cons c cs ih =>
    have hrest := ih fun d hd => h d (List.mem_cons_of_mem _ hd)
    simp only [Glyph.ofChars, List.map_cons, Numeral.digits] at hrest ⊢
    rw [digit?_of_isDigit (h c List.mem_cons_self), hrest]
    rfl

theorem digitChars_of_pos {n : Nat} (hn : 0 < n) :
    ∃ c cs d, Decimal.digitChars n = c :: cs ∧ Numeral.digit? (.char c) = some (d + 1) := by
  induction n using Nat.strongRecOn with
  | ind n ih =>
    by_cases hsmall : n < 10
    · have hdigit : ∀ k < 10, 0 < k → Numeral.digit? (.char (Nat.digitChar k)) = some (k - 1 + 1) := by
        decide
      exact ⟨_, [], n - 1, Nat.toDigits_of_lt_base hsmall, hdigit n hsmall hn⟩
    · obtain ⟨c, cs, d, hcs, hd⟩ := ih (n / 10) (by omega) (by omega)
      refine ⟨c, cs ++ [(n % 10).digitChar], d, ?_, hd⟩
      rw [Decimal.digitChars] at hcs ⊢
      rw [Nat.toDigits_of_base_le (by decide) (Nat.not_lt.1 hsmall), hcs]
      rfl

theorem wholeDigits_digitChars (n : Nat) :
    wholeDigits (Glyph.ofChars (Decimal.digitChars n)) =
      .ok (digitValues (Decimal.digitChars n), []) := by
  rcases Nat.eq_zero_or_pos n with rfl | hn
  · rfl
  · have hdigits := digits_ofChars fun c (hc : c ∈ Decimal.digitChars n) =>
      Decimal.isDigit_of_mem_digitChars hc
    obtain ⟨c, cs, d, hcs, hd⟩ := digitChars_of_pos hn
    rw [hcs] at hdigits ⊢
    refine (bind_peek (g := .char c)).trans ?_
    simp only [hd]
    exact congrArg Except.ok hdigits

theorem le_foldl_digits (ds : List Nat) (s : Nat) :
    s ≤ ds.foldl (fun s d => s * 10 + d) s := by
  induction ds generalizing s with
  | nil => exact Nat.le_refl s
  | cons d ds ih => exact Nat.le_trans (by omega) (ih (s * 10 + d))

/-- Digits whose value fits a word are all taken in. -/
theorem takeWhole_of_lt {ds : List Nat} {s n : Nat}
    (hvalue : ds.foldl (fun s d => s * 10 + d) s = n) (hn : n < Numeral.wordBound) :
    Numeral.takeWhole s ds = ⟨n, 0⟩ := by
  induction ds generalizing s with
  | nil => rw [← hvalue]; rfl
  | cons d ds ih =>
    have hd : s * 10 + d < Numeral.wordBound :=
      Nat.lt_of_le_of_lt (le_foldl_digits ds _) (hvalue ▸ hn)
    rw [Numeral.takeWhole, if_pos hd]
    exact ih hvalue

theorem foldl_of_takeWhole {ds : List Nat} {s n : Nat} (h : Numeral.takeWhole s ds = ⟨n, 0⟩) :
    ds.foldl (fun s d => s * 10 + d) s = n := by
  induction ds generalizing s with
  | nil =>
    cases h
    rfl
  | cons d ds ih =>
    rw [Numeral.takeWhole] at h
    split_ifs at h
    · exact ih h
    · cases h

theorem foldl_digitValues (cs : List Char) (s : Nat) :
    (digitValues cs).foldl (fun s d => s * 10 + d) s = Nat.ofDigitChars 10 cs s := by
  rw [Nat.ofDigitChars_eq_foldl, digitValues, List.foldl_map]
  simp only [Nat.mul_comm]
  rfl

theorem value_digitValues (n : Nat) :
    (digitValues (Decimal.digitChars n)).foldl (fun s d => s * 10 + d) 0 = n :=
  (foldl_digitValues _ 0).trans Nat.ofDigitChars_ten_toDigits

theorem readNumeral_integerChars (n : Int) :
    readNumeral (Glyph.ofChars (integerChars n)) =
      .ok (⟨decide (n < 0), digitValues (Decimal.digitChars n.natAbs), none, none⟩, []) := by
  by_cases hneg : n < 0
  · rw [integerChars, if_pos hneg, decide_eq_true hneg]
    refine (bind_peek (g := .char '-')).trans ?_
    simp only [if_true, decide_true]
    exact bind_advance.trans (bind_ok (wholeDigits_digitChars n.natAbs))
  · rw [integerChars, if_neg hneg, decide_eq_false hneg]
    obtain ⟨c, cs, hcs⟩ :=
      List.exists_cons_of_ne_nil (Nat.toDigits_ne_nil (b := 10) (n := n.natAbs))
    have hdigit : c.isDigit = true := Decimal.isDigit_of_mem_digitChars (hcs ▸ List.mem_cons_self)
    have hminus : ¬ some (Glyph.char c) = some (.char '-') := by
      intro h
      obtain rfl := Glyph.char.inj (Option.some.inj h)
      cases hdigit
    have hwhole := wholeDigits_digitChars n.natAbs
    rw [Decimal.digitChars, hcs] at hwhole ⊢
    refine (bind_peek (g := .char c)).trans ?_
    simp only [hminus, if_false, decide_false]
    exact bind_ok hwhole

theorem value_of_takeWhole {n : Int} (h : Fits n) {ds : List Nat}
    (hwhole : Numeral.takeWhole 0 ds = ⟨n.natAbs, 0⟩) :
    Numeral.value ⟨decide (n < 0), ds, none, none⟩ = .ok (.integer n h) := by
  have hexact : (if decide (n < 0) = true then -(n.natAbs : Int) else n.natAbs) = n := by
    by_cases hneg : n < 0
    · simp only [hneg, decide_true, if_true]; omega
    · simp only [hneg, decide_false, Bool.false_eq_true, if_false]; omega
  have hsign : (n != 0 || !decide (n < 0)) = true := by
    by_cases hneg : n < 0
    · simp [show n ≠ 0 by omega]
    · simp [hneg]
  simp only [Numeral.value, hwhole, hexact]
  rw [dif_pos (by simp [hsign, h])]

/-- Integers of 64 bits are exact. -/
theorem readNumber_integerChars {n : Int} (h : Fits n) :
    readNumber (Glyph.ofChars (integerChars n)) = .ok (.integer n h, []) := by
  have hbound : n.natAbs < Numeral.wordBound := by
    have hfits := h
    simp only [Fits] at hfits
    simp only [Numeral.wordBound]
    omega
  have hvalue := value_of_takeWhole h (takeWhole_of_lt (value_digitValues n.natAbs) hbound)
  refine (bind_ok (readNumeral_integerChars n)).trans ?_
  rw [hvalue]
  rfl

end Reader

end SeriesClient.Json
