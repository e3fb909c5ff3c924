import SeriesClient.Proofs.Codec.Spelled
import SeriesClient.Proofs.Codec.Document

/-! Values that nobody asks for are passed over, whatever they are. The machine that does it keeps the
brackets that are open. After a value it closes those that end there, and so goes on either behind the
outermost value or at the next one inside; a whole value brings it to where it would be had it stood
behind that value all along. -/

namespace SeriesClient.Json

namespace Source

theorem begins (t : Source) : Reader.Begins t.chars := by
  cases t with
  | null => exact ⟨'n', _, rfl, rfl, by decide⟩
  | bool b =>
    cases b
    · exact ⟨'f', _, rfl, rfl, by decide⟩
    · exact ⟨'t', _, rfl, rfl, by decide⟩
  | number f =>
    obtain ⟨c, cs, hcs, hc⟩ := Reader.figure_begins f
    exact ⟨c, cs, hcs, Reader.not_space_of_number hc, Reader.ne_of_begins_number hc (by decide)⟩
  | string s => exact ⟨'"', _, rfl, rfl, by decide⟩
  | array gap items => exact ⟨'[', _, rfl, rfl, by decide⟩
  | object gap members => exact ⟨'\x7b', _, rfl, rfl, by decide⟩

end Source

namespace Reader

open Source (commas)

variable {outer : List Bracket} {opened : Bool} {n m fuel : Nat} {text rest : List Glyph}

/-- Goes on behind a value or an opening bracket. -/
def resume (n m : Nat) (brackets : List Bracket) (opened : Bool) : Reader Unit := do
  match ← skipToValue n brackets opened with
  | none => pure ()
  | some brackets => skipValues m brackets

theorem skips_resume {b : Bracket} : Skips (resume (n + 1) m (b :: outer) opened) :=
  skips_token.bind

theorem skips_skipValues : Skips (skipValues (n + 1) outer) := skips_token

theorem skips_skipName : Skips skipName := skips_token

def closing : Bracket → Char
  | .list => ']'
  | .object => '\x7d'

theorem ends_closing (b : Bracket) (rest : List Glyph) : Ends (.char (closing b) :: rest) := by
  cases b
  · exact ends_bracket
  · exact ends_brace

theorem resume_closing (b : Bracket) (opened : Bool) (rest : List Glyph) :
    resume (n + 1) m (b :: outer) opened (.char (closing b) :: rest) = resume n m outer false rest := by
  cases b <;> cases opened <;> rfl

/-- What may stand before a value inside brackets: nothing in a list, a name in an object. -/
inductive Leads : Bracket → List Char → Prop where
  | item : Leads .list []
  | member (name : Padded Spelling) : Leads .object ((name.map Spelling.chars).chars ++ [':'])

theorem skipName_member (name : Padded Spelling) (text : List Glyph) :
    skipName (Glyph.ofChars ((name.map Spelling.chars).chars ++ [':']) ++ text) = .ok ((), text) := by
  simp only [Padded.chars, Padded.map, Spelling.chars, ofChars_append, ofChars_cons, ofChars_nil,
    List.append_assoc, List.cons_append, List.nil_append]
  rw [skips_skipName]
  refine (bind_token (g := .char '"') rfl).trans ?_
  dsimp only
  rw [if_pos rfl]
  refine bind_advance.trans ((bind_ok (skipString_spelling name.inside _)).trans ?_)
  exact (skips_token name.after _).trans rfl

theorem resume_comma {b : Bracket} {lead : List Char} (h : Leads b lead) (text : List Glyph) :
    resume (n + 1) m (b :: outer) false (.char ',' :: (Glyph.ofChars lead ++ text)) =
      skipValues m (b :: outer) text := by
  cases h with
  | item => rfl
  | member name =>
    have hcomma (text : List Glyph) : skipToValue (n + 1) (.object :: outer) false (.char ',' :: text) =
        (skipName >>= fun _ => pure (some (.object :: outer))) text := rfl
    exact bind_ok ((hcomma _).trans (bind_ok (skipName_member name text)))

theorem resume_open {b : Bracket} {lead chars : List Char} (h : Leads b lead) (hchars : Begins chars)
    (blanks : List Blank) (text : List Glyph) :
    resume (n + 1) (m + 1) (b :: outer) true
        (Glyph.ofChars lead ++ (Glyph.ofChars (blankChars blanks) ++ (Glyph.ofChars chars ++ text))) =
      skipValues (m + 1) (b :: outer) (Glyph.ofChars chars ++ text) := by
  cases h with
  | item =>
    obtain ⟨c, cs, rfl, hspace, hc⟩ := hchars
    have hnext : skipToValue (n + 1) (.list :: outer) true (Glyph.ofChars (c :: cs) ++ text) =
        .ok (some (.list :: outer), Glyph.ofChars (c :: cs) ++ text) := by
      refine (bind_token (g := .char c) hspace).trans ?_
      simp only [Bool.not_true, Bool.and_false, Bool.false_eq_true, if_false, Glyph.char.injEq, hc,
        if_true]
      rfl
    exact (skips_resume blanks _).trans (bind_ok hnext)
  | member name =>
    have hopen (text : List Glyph) : skipToValue (n + 1) (.object :: outer) true (.char '"' :: text) =
        (skipName >>= fun _ => pure (some (.object :: outer))) (.char '"' :: text) := rfl
    have hlead : (name.map Spelling.chars).chars ++ [':'] =
        blankChars name.before ++ '"' :: (name.inside.rest ++ (blankChars name.after ++ [':'])) := by
      simp [Padded.chars, Padded.map, Spelling.chars]
    have hname := skipName_member name
      (Glyph.ofChars (blankChars blanks) ++ (Glyph.ofChars chars ++ text))
    rw [hlead, ofChars_append, List.append_assoc, skips_skipName] at hname
    rw [hlead, ofChars_append, List.append_assoc, skips_resume]
    exact (bind_ok ((hopen _).trans (bind_ok hname))).trans (skips_skipValues blanks _)

/-- What comes of the text behind a value that stands in some brackets, once there is fuel enough. -/
def Comes (k : Nat) (outer : List Bracket) (rest : List Glyph)
    (r : Except Failure (Unit × List Glyph)) : Prop :=
  ∀ n m, k ≤ n → k ≤ m → resume n m outer false rest = r

/-- The value changes nothing of what comes behind it. -/
def Passes (t : Source) : Prop :=
  ∀ ⦃k fuel outer rest r⦄, Ends rest → Comes k outer rest r → k + t.chars.length ≤ fuel →
    skipValues fuel outer (Glyph.ofChars t.chars ++ rest) = r

/-- A value without brackets is taken in one step. -/
theorem passes_of_step {t : Source} (h : ∀ fuel outer rest, Ends rest →
    skipValues (fuel + 1) outer (Glyph.ofChars t.chars ++ rest) =
      resume (fuel + 1) fuel outer false rest) : Passes t := by
  intro k fuel outer rest r hrest hr hfuel
  obtain ⟨c, cs, hcs, -⟩ := t.begins
  rw [hcs, List.length_cons] at hfuel
  obtain ⟨fuel, rfl⟩ : ∃ fuel', fuel = fuel' + 1 := ⟨fuel - 1, by omega⟩
  rw [h fuel outer rest hrest]
  exact hr _ _ (by omega) (by omega)

theorem passes_null : Passes .null := by
  refine passes_of_step fun fuel outer rest _ => ?_
  refine (bind_token (g := .char 'n') rfl).trans ?_
  dsimp only
  rw [if_pos rfl]
  exact bind_advance.trans (bind_ok (expectRest_ofChars ['u', 'l', 'l'] rest))

theorem passes_bool (b : Bool) : Passes (.bool b) := by
  refine passes_of_step fun fuel outer rest _ => ?_
  cases b with
  | false =>
    refine (bind_token (g := .char 'f') rfl).trans ?_
    dsimp only
    rw [if_neg (by decide), if_neg (by decide), if_pos rfl]
    exact bind_advance.trans (bind_ok (expectRest_ofChars ['a', 'l', 's', 'e'] rest))
  | true =>
    refine (bind_token (g := .char 't') rfl).trans ?_
    dsimp only
    rw [if_neg (by decide), if_pos rfl]
    exact bind_advance.trans (bind_ok (expectRest_ofChars ['r', 'u', 'e'] rest))

theorem passes_number (f : Figure) : Passes (.number f) := by
  refine passes_of_step fun fuel outer rest hrest => ?_
  have hskip := skipNumber_figure f hrest
  obtain ⟨c, cs, hcs, hc⟩ := figure_begins f
  rw [hcs] at hskip
  rw [Source.chars, hcs]
  refine (bind_token (g := .char c) (not_space_of_number hc)).trans ?_
  dsimp only
  rw [if_neg (ne_of_begins_number hc (by decide)), if_neg (ne_of_begins_number hc (by decide)),
    if_neg (ne_of_begins_number hc (by decide)), if_pos (inRange_of_number hc)]
  exact bind_ok hskip

theorem passes_string (s : Spelling) : Passes (.string s) := by
  refine passes_of_step fun fuel outer rest _ => ?_
  refine (bind_token (g := .char '"') rfl).trans ?_
  dsimp only
  rw [if_neg (by decide), if_neg (by decide), if_neg (by decide), if_neg (by decide), if_pos rfl]
  exact bind_advance.trans (bind_ok (skipString_spelling s rest))

abbrev Entry := List Char × Padded Source

def Entry.chars (e : Entry) : List Char := e.1 ++ (e.2.map Source.chars).chars

def followEntries (entries : List Entry) : List Char := further (entries.map Entry.chars)

theorem ends_followEntries (b : Bracket) (entries : List Entry) (rest : List Glyph) :
    Ends (Glyph.ofChars (followEntries entries) ++ .char (closing b) :: rest) := by
  cases entries with
  | nil => exact ends_closing b rest
  | cons e entries => exact ends_comma

variable {b : Bracket} {entries : List Entry} {k : Nat} {r : Except Failure (Unit × List Glyph)}

/-- Behind a value inside brackets come the values that follow it, and then what comes behind the
closing bracket. -/
theorem comes_entries (hentries : ∀ e ∈ entries, Leads b e.1 ∧ Passes e.2.inside)
    (h : Comes k outer rest r) (gap : List Blank) :
    Comes (k + 1 + (followEntries entries).length) (b :: outer) (Glyph.ofChars (blankChars gap) ++
      (Glyph.ofChars (followEntries entries) ++ .char (closing b) :: rest)) r := by
  induction entries generalizing gap with
  | nil =>
    intro n m hn hm
    obtain ⟨n, rfl⟩ : ∃ n', n = n' + 1 := ⟨n - 1, by omega⟩
    rw [skips_resume]
    exact (resume_closing b false rest).trans (h n m (by omega) (by omega))
  | cons e entries ih =>
    obtain ⟨⟨hlead, hpasses⟩, hentries⟩ := List.forall_mem_cons.1 hentries
    have hfollow : followEntries (e :: entries) = ',' :: (e.1 ++ (blankChars e.2.before ++
        (e.2.inside.chars ++ (blankChars e.2.after ++ followEntries entries)))) := by
      simp [followEntries, further, Entry.chars, Padded.chars, Padded.map]
    intro n m hn hm
    simp only [hfollow, List.length_cons, List.length_append] at hn hm
    obtain ⟨n, rfl⟩ : ∃ n', n = n' + 1 := ⟨n - 1, by omega⟩
    obtain ⟨m, rfl⟩ : ∃ m', m = m' + 1 := ⟨m - 1, by omega⟩
    rw [skips_resume, hfollow]
    simp only [ofChars_cons, ofChars_append, List.cons_append, List.append_assoc]
    rw [resume_comma hlead, skips_skipValues]
    exact hpasses (ends_blanks (ends_followEntries b entries rest) _) (ih hentries e.2.after) (by omega)

/-- All between two brackets, and the brackets. -/
theorem passes_brackets {t : Source} {opening : Char} {gap : List Blank}
    (hchars : t.chars = opening ::
      (blankChars gap ++ (commas (entries.map Entry.chars) ++ [closing b])))
    (hopening : ∀ fuel outer text, skipValues (fuel + 1) outer (.char opening :: text) =
      resume (fuel + 1) fuel (b :: outer) true text)
    (hentries : ∀ e ∈ entries, Leads b e.1 ∧ Passes e.2.inside) : Passes t := by
  intro k fuel outer rest r _ h hfuel
  simp only [hchars, List.length_cons, List.length_append, List.length_nil] at hfuel
  obtain ⟨fuel, rfl⟩ : ∃ fuel', fuel = fuel' + 1 := ⟨fuel - 1, by omega⟩
  simp only [hchars, ofChars_cons, ofChars_append, ofChars_nil, List.cons_append, List.append_assoc,
    List.nil_append]
  rw [hopening, skips_resume]
  cases entries with
  | nil => exact (resume_closing b true rest).trans (h fuel fuel (by omega) (by omega))
  | cons e entries =>
    obtain ⟨⟨hlead, hpasses⟩, hentries⟩ := List.forall_mem_cons.1 hentries
    have hcommas : commas ((e :: entries).map Entry.chars) = e.1 ++ (blankChars e.2.before ++
        (e.2.inside.chars ++ (blankChars e.2.after ++ followEntries entries))) := by
      simp [commas_cons, followEntries, Entry.chars, Padded.chars, Padded.map]
    simp only [hcommas, List.length_append] at hfuel
    obtain ⟨fuel, rfl⟩ : ∃ fuel', fuel = fuel' + 1 := ⟨fuel - 1, by omega⟩
    simp only [hcommas, ofChars_append, List.append_assoc]
    rw [resume_open hlead e.2.inside.begins]
    exact hpasses (ends_blanks (ends_followEntries b entries rest) _)
      (comes_entries hentries h e.2.after) (by omega)

theorem itemTexts_entries (items : List (Padded Source)) :
    Source.itemTexts items = (items.map fun item => (([], item) : Entry)).map Entry.chars := by
  rw [Source.itemTexts_eq, List.map_map]
  rfl

theorem memberTexts_entries (members : List (Padded Spelling × Padded Source)) :
    Source.memberTexts members = (members.map fun m =>
      (((m.1.map Spelling.chars).chars ++ [':'], m.2) : Entry)).map Entry.chars := by
  rw [Source.memberTexts_eq, List.map_map]
  exact List.map_congr_left fun m _ => by simp [Entry.chars]

theorem passes_array {gap : List Blank} {items : List (Padded Source)}
    (h : ∀ item ∈ items, Passes item.inside) : Passes (.array gap items) := by
  refine passes_brackets (b := .list) (by rw [Source.chars, itemTexts_entries]; rfl)
    (fun fuel outer text => ?_) (List.forall_mem_map.2 fun item hitem => ⟨.item, h item hitem⟩)
  refine (bind_token (g := .char '[') rfl).trans ?_
  dsimp only
  rw [if_neg (by decide), if_neg (by decide), if_neg (by decide), if_neg (by decide),
    if_neg (by decide), if_pos rfl]
  rfl

theorem passes_object {gap : List Blank} {members : List (Padded Spelling × Padded Source)}
    (h : ∀ m ∈ members, Passes m.2.inside) : Passes (.object gap members) := by
  refine passes_brackets (b := .object) (by rw [Source.chars, memberTexts_entries]; rfl)
    (fun fuel outer text => ?_) (List.forall_mem_map.2 fun m hm => ⟨.member m.1, h m hm⟩)
  refine (bind_token (g := .char '\x7b') rfl).trans ?_
  dsimp only
  rw [if_neg (by decide), if_neg (by decide), if_neg (by decide), if_neg (by decide),
    if_neg (by decide), if_neg (by decide), if_pos rfl]
  rfl

mutual

theorem passes : ∀ t : Source, Passes t
  | .null => passes_null
  | .bool b => passes_bool b
  | .number f => passes_number f
  | .string s => passes_string s
  | .array _ items => passes_array (passes_items items)
  | .object _ members => passes_object (passes_members members)

theorem passes_items : ∀ items : List (Padded Source), ∀ item ∈ items, Passes item.inside
  | [] => nofun
  | ⟨_, inside, _⟩ :: items => List.forall_mem_cons.2 ⟨passes inside, passes_items items⟩

theorem passes_members : ∀ members : List (Padded Spelling × Padded Source),
    ∀ m ∈ members, Passes m.2.inside
  | [] => nofun
  | (_, ⟨_, inside, _⟩) :: members => List.forall_mem_cons.2 ⟨passes inside, passes_members members⟩

end

/-- Any value is passed over. -/
theorem skipValue_source (t : Source) (blanks : List Blank) {rest : List Glyph} (hrest : Ends rest) :
    skipValue (Glyph.ofChars (blankChars blanks) ++ (Glyph.ofChars t.chars ++ rest)) =
      .ok ((), rest) := by
  have hcomes : Comes 1 [] rest (.ok ((), rest)) := by
    intro n m hn _
    obtain ⟨n, rfl⟩ : ∃ n', n = n' + 1 := ⟨n - 1, by omega⟩
    rfl
  refine (skips_skipValues blanks _).trans (passes t hrest hcomes ?_)
  simp only [List.length_append, length_ofChars]
  omega

end Reader
end SeriesClient.Json
