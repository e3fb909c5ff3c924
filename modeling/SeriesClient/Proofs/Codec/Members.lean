import SeriesClient.Proofs.Codec.Skipped

/-! Objects whose members are taken by name, whatever the names are written with. A name may have
surrogates in it, and then it is read only if each of them has its other half; so an object is taken
apart in the way that its names and its values say, and nothing that is taken apart is not an object. -/

namespace SeriesClient.Json

namespace Spelling

/-- The pieces of a string, where two escapes that stand side by side as the halves of a pair are one
piece. -/
def joined : Spelling → Spelling
  | .unit high :: .unit low :: rest =>
    if h : Reader.isHigh high.value = true ∧ Reader.isLow low.value = true then
      .pair high low h.1 h.2 :: joined rest
    else .unit high :: joined (.unit low :: rest)
  | p :: rest => p :: joined rest
  | [] => []

/-- The text that a string stands for, unless it has half a pair without the other half. -/
def meant? (s : Spelling) : Option String := s.joined.text? none

theorem chars_joined (s : Spelling) : s.joined.flatMap Piece.chars = s.flatMap Piece.chars := by
  fun_induction joined s with
  | case1 high low rest h ih => simp [Piece.chars, ih]
  | case2 high low rest h ih =>
    rw [List.flatMap_cons, ih]
    rfl
  | case3 p rest _ ih => rw [List.flatMap_cons, ih, List.flatMap_cons]
  | case4 => rfl

theorem length_le_pieces {lone : Option Char} {s : Spelling} {cs : List Char}
    (h : s.mapM (Piece.char? lone) = some cs) : cs.length ≤ (s.flatMap Piece.chars).length := by
  induction s generalizing cs with
  | nil =>
    cases h
    exact Nat.zero_le _
  | cons p s ih =>
    rw [List.mapM_cons] at h
    obtain ⟨c, -, hrest⟩ := Option.bind_eq_some_iff.1 h
    obtain ⟨cs', hcs, hpure⟩ := Option.bind_eq_some_iff.1 hrest
    cases hpure
    have hpiece := Reader.length_chars_pos p
    have hpieces := ih hcs
    rw [List.flatMap_cons, List.length_append, List.length_cons]
    omega

theorem length_le_of_meant? {s : Spelling} {text : String} (h : s.meant? = some text) :
    text.toList.length ≤ s.chars.length := by
  obtain ⟨cs, hcs, rfl⟩ := Option.map_eq_some_iff.1 h
  have hle := length_le_pieces hcs
  rw [chars_joined] at hle
  rw [String.toList_ofList, chars, rest]
  simp only [List.length_cons, List.length_append]
  omega

end Spelling

namespace Reader

variable {α σ : Type} {done rest : List Glyph}

/-- Behind the first half of a pair there must stand an escape. -/
theorem scan_pairSlash {high : Nat} {s : Spelling} (h : ∀ e tail, s ≠ .unit e :: tail)
    (rest : List Glyph) :
    (scanString (.pairSlash high) done (Glyph.ofChars s.rest ++ rest)).toOption = none := by
  cases s with
  | nil => rfl
  | cons p s =>
    rw [Spelling.rest, List.flatMap_cons, List.append_assoc, ofChars_append, List.append_assoc]
    cases p with
    | plain c hc => simp [Piece.chars, scanString, hc.2.1, Except.toOption]
    | short e => cases e <;> rfl
    | unit e => exact absurd rfl (h e s)
    | pair first second hfirst hsecond =>
      rw [Piece.chars, ofChars_append, List.append_assoc, scanString_second, not_isLow_of_isHigh hfirst]
      rfl

theorem scan_lone {e : Escape} (hlone : e.isSurrogate = true)
    {s : Spelling} (h : ∀ low tail, s = .unit low :: tail → ¬ (isHigh e.value = true ∧ isLow low.value = true))
    (rest : List Glyph) :
    (scanString .plain done (Glyph.ofChars (e.chars ++ s.rest) ++ rest)).toOption = none := by
  rw [ofChars_append, List.append_assoc, scanString_escape]
  split_ifs with hlow hhigh
  · rfl
  · by_cases hunit : ∃ low tail, s = .unit low :: tail
    · obtain ⟨low, tail, rfl⟩ := hunit
      have hnot : isLow low.value = false := by simpa [hhigh] using h low tail rfl
      rw [Spelling.rest, List.flatMap_cons, List.append_assoc, ofChars_append, List.append_assoc,
        Piece.chars, scanString_second, hnot]
      rfl
    · exact scan_pairSlash (fun low tail hs => hunit ⟨low, tail, hs⟩) rest
  · simp [Escape.isSurrogate, hlow, hhigh] at hlone

def scanned (s : Spelling) (done rest : List Glyph) : Option (List Glyph × List Glyph) :=
  (s.mapM (Piece.char? none)).map fun cs => (done.reverse ++ Glyph.ofChars cs, rest)

theorem scanned_cons {p : Piece} {c : Char} (hc : p.char? none = some c) (s : Spelling)
    (done rest : List Glyph) : scanned (p :: s) done rest = scanned s (.char c :: done) rest := by
  rw [scanned, scanned, List.mapM_cons, hc]
  cases s.mapM (Piece.char? none) <;> simp

theorem scanned_lone {p : Piece} (hp : p.char? none = none) (s : Spelling) (done rest : List Glyph) :
    scanned (p :: s) done rest = none := by
  rw [scanned, List.mapM_cons, hp]
  rfl

theorem rest_cons (p : Piece) (s : Spelling) : Spelling.rest (p :: s) = p.chars ++ s.rest := by
  rw [Spelling.rest, List.flatMap_cons, List.append_assoc]
  rfl

/-- A piece that stands for a character is read as that. -/
theorem scan_cons {p : Piece} {c : Char} (hc : p.char? none = some c) (s : Spelling)
    (done rest : List Glyph) :
    scanString .plain done (Glyph.ofChars (Spelling.rest (p :: s)) ++ rest) =
      scanString .plain (.char c :: done) (Glyph.ofChars s.rest ++ rest) := by
  rw [rest_cons, ofChars_append, List.append_assoc, scanString_piece hc]

theorem surrogate_of_char? {p : Piece} (hp : p.char? none = none) :
    ∃ e : Escape, p = .unit e ∧ e.isSurrogate = true := by
  cases p with
  | unit e =>
    refine ⟨e, rfl, ?_⟩
    by_contra hnot
    simp [Piece.char?, hnot] at hp
  | plain c hc => cases hp
  | short s => cases hp
  | pair high low hhigh hlow => cases hp

/-- A string is read as its pieces are, once the halves of pairs have been put together. -/
theorem scan_spelling (s : Spelling) (done rest : List Glyph) :
    (scanString .plain done (Glyph.ofChars s.rest ++ rest)).toOption = scanned s.joined done rest := by
  fun_induction Spelling.joined s generalizing done with
  | case1 high low s h ih =>
    have hpair : (Piece.pair high low h.1 h.2).char? none = some _ := rfl
    have htext : Spelling.rest (.unit high :: .unit low :: s) =
        Spelling.rest (.pair high low h.1 h.2 :: s) := by
      simp [rest_cons, Piece.chars]
    rw [htext, scan_cons hpair, ih, scanned_cons hpair]
  | case2 high low s h ih =>
    cases hc : (Piece.unit high).char? none with
    | some c => rw [scan_cons hc, ih, scanned_cons hc]
    | none =>
      obtain ⟨e, he, hlone⟩ := surrogate_of_char? hc
      obtain rfl := Piece.unit.inj he
      rw [scanned_lone hc, rest_cons]
      refine scan_lone hlone (fun low' tail hs => ?_) rest
      obtain ⟨hlow, -⟩ := List.cons.inj hs
      exact Piece.unit.inj hlow ▸ h
  | case3 p s hp ih =>
    cases hc : p.char? none with
    | some c => rw [scan_cons hc, ih, scanned_cons hc]
    | none =>
      obtain ⟨e, rfl, hlone⟩ := surrogate_of_char? hc
      rw [scanned_lone hc, rest_cons]
      exact scan_lone hlone (fun low tail hs => (hp e low tail rfl hs).elim) rest
  | case4 => simp [Spelling.rest, scanned, scanString, Except.toOption]

/-- A string is read just if there is a text that it stands for. -/
theorem outcome_readString (s : Spelling) (rest : List Glyph) :
    outcome readString (Glyph.ofChars s.rest ++ rest) = s.meant?.map (·, rest) := by
  have hscan := scan_spelling s [] rest
  rw [outcome, readString, Spelling.meant?, Spelling.text?]
  rw [scanned] at hscan
  cases hread : scanString .plain [] (Glyph.ofChars s.rest ++ rest) with
  | error failure =>
    rw [hread] at hscan
    cases hchars : s.joined.mapM (Piece.char? none) with
    | none => rfl
    | some cs => rw [hchars] at hscan; cases hscan
  | ok found =>
    rw [hread] at hscan
    cases hchars : s.joined.mapM (Piece.char? none) with
    | none => rw [hchars] at hscan; cases hscan
    | some cs =>
      rw [hchars] at hscan
      cases hscan
      simp only [List.reverse_nil, List.nil_append, strict?_ofChars]
      rfl

end Reader

def Source.textOf? : Source → Option String
  | .string s => s.meant?
  | _ => none

namespace Reader

theorem decides_readText (t : Source) : Decides readText t.chars t.textOf? := by
  intro rest _
  cases t with
  | string s =>
    have hopen : readText (Glyph.ofChars s.chars ++ rest) =
        readString (Glyph.ofChars s.rest ++ rest) :=
      (bind_token (g := .char '"') rfl).trans rfl
    rw [Source.chars, outcome, hopen]
    exact outcome_readString s rest
  | number f =>
    obtain ⟨c, cs, hcs, hc⟩ := figure_begins f
    rw [Source.chars, hcs]
    exact outcome_text_wrong (not_space_of_number hc) (ne_of_begins_number hc (by decide))
  | null => exact outcome_text_wrong rfl (by decide)
  | bool b => cases b <;> exact outcome_text_wrong rfl (by decide)
  | array gap items => exact outcome_text_wrong rfl (by decide)
  | object gap members => exact outcome_text_wrong rfl (by decide)

theorem readText_written {cs : List Char} {text : String} {left : List Glyph}
    (h : readText (Glyph.ofChars cs) = .ok (text, left)) :
    ∃ (before : List Blank) (s : Spelling) (back : List Char),
      cs = blankChars before ++ (s.chars ++ back) ∧ left = Glyph.ofChars back := by
  obtain ⟨before, c, tail, rfl, hnext⟩ := token_written h (by nofun)
  dsimp only at hnext
  split_ifs at hnext with hquote
  · cases hquote
    obtain ⟨s, back, rfl, hleft, -⟩ := readString_written (bind_advance.symm.trans hnext)
    exact ⟨before, s, back, rfl, hleft⟩
  · exact absurd hnext wrongType_ne_ok

variable {member : String → σ → Reader σ} {step : σ → String → Source → Option σ} {fuel : Nat} {s : σ}
  {members : List (Padded Spelling × Padded Source)}

/-- A value is taken in a way that its name and the value itself tell. -/
def TakesByName (member : String → σ → Reader σ) (step : σ → String → Source → Option σ) : Prop :=
  ∀ name s m, Decides (member name s) (valueChars (Source.memberSlot m)) (step s name m.2.inside)

def stepMember (step : σ → String → Source → Option σ) (s : σ) (m : Padded Spelling × Padded Source) :
    Option σ :=
  m.1.inside.meant?.bind fun name => step s name m.2.inside

theorem outcome_byNameUpTo (h : TakesByName member step) (hfuel : members.length < fuel) (first : Bool)
    (gap : List Blank) (rest : List Glyph) :
    outcome (membersUpTo member fuel first s) (membersText first gap members rest) =
      (members.foldlM (stepMember step) s).map (·, .char '\x7d' :: rest) := by
  induction members generalizing fuel first gap s with
  | nil =>
    obtain ⟨fuel, rfl⟩ := Nat.exists_eq_add_one_of_ne_zero (Nat.ne_of_gt hfuel)
    exact outcome_bind_ok moreMembers_none
  | cons m members ih =>
    obtain ⟨fuel, rfl⟩ := Nat.exists_eq_add_one_of_ne_zero (Nat.ne_of_gt (Nat.zero_lt_of_lt hfuel))
    refine (outcome_bind_ok moreMembers_some).trans ?_
    rw [if_pos rfl, outcome_advance, outcome_bind, List.foldlM_cons, stepMember]
    have hname : (Source.memberSlot m).1.inside = m.1.inside.rest := rfl
    rw [hname, outcome_readString]
    cases m.1.inside.meant? with
    | none => rfl
    | some name =>
      simp only [Option.map_some, Option.bind_some]
      rw [outcome_bind, h name s m _ ends_objectText]
      cases step s name m.2.inside with
      | none => rfl
      | some s' => exact ih (Nat.lt_of_succ_lt_succ hfuel) false _

/-- An object comes to what its members come to, one after another. -/
theorem outcome_byName (h : TakesByName member step) (gap : List Blank) (rest : List Glyph) :
    outcome (Reader.members member s) (membersText true gap members rest) =
      (members.foldlM (stepMember step) s).map (·, .char '\x7d' :: rest) := by
  have hfuel : ((members.map Source.memberSlot).map memberText).length <
      (membersText true gap members rest).length + 1 := length_lt_between
  rw [List.length_map, List.length_map] at hfuel
  exact outcome_byNameUpTo h hfuel true gap rest

variable {cs : List Char} {left : List Glyph} {first : Bool}

/-- Whatever is taken for a name is a colon and a value. -/
def TakesValues (member : String → σ → Reader σ) : Prop :=
  ∀ ⦃name s cs s' left⦄, member name s (Glyph.ofChars cs) = .ok (s', left) →
    ∃ (gap before : List Blank) (t : Source) (back : List Char),
      cs = blankChars gap ++ ':' :: (blankChars before ++ (t.chars ++ back)) ∧ left = Glyph.ofChars back

/-- What is found where a member may follow: the closing brace, or the next name. -/
theorem moreMembers_written {more : Bool} (h : moreMembers first (Glyph.ofChars cs) = .ok (more, left)) :
    ∃ gap : List Blank, if more then
      ∃ (before : List Blank) (back : List Char), left = Glyph.ofChars ('"' :: back) ∧
        cs = blankChars gap ++ ((if first then [] else [',']) ++ (blankChars before ++ '"' :: back))
    else ∃ back : List Char, left = Glyph.ofChars ('\x7d' :: back) ∧ cs = blankChars gap ++ '\x7d' :: back := by
  obtain ⟨gap, c, tail, rfl, hnext⟩ := token_written h (by nofun)
  refine ⟨gap, ?_⟩
  dsimp only at hnext
  split_ifs at hnext with hclosing hfirst hquote hcomma
  · cases hclosing
    cases hnext
    exact ⟨tail, rfl, rfl⟩
  · cases hquote
    cases hnext
    exact ⟨[], tail, rfl, by rw [hfirst]; rfl⟩
  · cases hnext
  · cases hcomma
    obtain ⟨before, c, back, rfl, hname⟩ := token_written (bind_advance.symm.trans hnext) (by nofun)
    dsimp only at hname
    split_ifs at hname with hquote
    · cases hquote
      cases hname
      exact ⟨before, back, rfl, by simp [hfirst]⟩
    · cases hname
    · cases hname
  · cases hnext

theorem membersUpTo_written (hmember : TakesValues member) {s' : σ}
    (h : membersUpTo member fuel first s (Glyph.ofChars cs) = .ok (s', left)) :
    ∃ (gap : List Blank) (entries : List Entry) (back : List Char), (∀ e ∈ entries, Leads .object e.1) ∧
      left = Glyph.ofChars ('\x7d' :: back) ∧ cs = blankChars gap ++
        ((if first then Source.commas (entries.map Entry.chars) else followEntries entries) ++
          '\x7d' :: back) := by
  induction fuel generalizing first s cs with
  | zero => cases h
  | succ fuel ih =>
    obtain ⟨more, mid, hmore, hrest⟩ := bind_eq_ok_iff.1 h
    obtain ⟨gap, hfound⟩ := moreMembers_written hmore
    cases more with
    | false =>
      obtain ⟨back, rfl, rfl⟩ := hfound
      cases hrest
      exact ⟨gap, [], back, nofun, rfl, by cases first <;> rfl⟩
    | true =>
      obtain ⟨before, back, rfl, rfl⟩ := hfound
      rw [if_pos rfl] at hrest
      obtain ⟨name, mid, hname, hrest⟩ := bind_eq_ok_iff.1 (bind_advance.symm.trans hrest)
      obtain ⟨spelling, back, rfl, rfl, -⟩ := readString_written hname
      obtain ⟨s₁, mid, hvalue, hrest⟩ := bind_eq_ok_iff.1 hrest
      obtain ⟨after, before', t, back, rfl, rfl⟩ := hmember hvalue
      obtain ⟨gap', entries, back, hentries, hleft, rfl⟩ := ih hrest
      refine ⟨gap, (_, ⟨before', t, gap'⟩) :: entries, back,
        List.forall_mem_cons.2 ⟨.member ⟨before, spelling, after⟩, hentries⟩, hleft, ?_⟩
      cases first <;>
        simp [commas_cons, followEntries, further, Entry.chars, Padded.chars, Padded.map, Spelling.chars]

/-- An object that is taken apart is one. -/
theorem members_written (hmember : TakesValues member) {s' : σ}
    (h : Reader.members member s (Glyph.ofChars cs) = .ok (s', left)) :
    ∃ (gap : List Blank) (members : List (Padded Spelling × Padded Source)) (back : List Char),
      left = Glyph.ofChars ('\x7d' :: back) ∧
        '\x7b' :: cs = (Source.object gap members).chars ++ back := by
  obtain ⟨gap, entries, back, hentries, hleft, rfl⟩ := membersUpTo_written hmember h
  obtain ⟨members, rfl⟩ := exists_members hentries
  refine ⟨gap, members, back, hleft, ?_⟩
  rw [Source.chars, memberTexts_entries]
  simp

end Reader
end SeriesClient.Json
