import SeriesClient.Proofs.Codec.Members
import SeriesClient.Proofs.Http.Count

/-! The text of an error. It is looked for under three names, but they are names of one field, which has
to be there once and to hold a string. So an object with two of them tells its error only by all of its
text, even if there is a string under just one, and so does an object in which some name has half a
surrogate pair. Any other object gives the string that it has under one of the names, and a body that is
neither an object nor a list gives itself, white space aside. -/

namespace SeriesClient.Http

open Json Reader

section
variable (m : Padded Spelling × Padded Source) (members : List (Padded Spelling × Padded Source))

def namesError : Bool := m.1.inside.meant?.any isErrorName

def errorString? : Option String := if namesError m then m.2.inside.textOf? else none

/-- The strings that an object has under the names, in the order in which they are written. -/
def errorStrings : List String := members.filterMap errorString?

/-- The names of all members are texts, and just one of them is a name for the text of an error. -/
structure NamesErrorOnce : Prop where
  texts : ∀ m ∈ members, m.1.inside.meant?.isSome = true
  once : (members.filter namesError).length = 1

end

def takeError (found : Option String) (name : String) (t : Source) : Option (Option String) :=
  if isErrorName name then if found.isSome then none else t.textOf?.map some else some found

variable {m : Padded Spelling × Padded Source} {members : List (Padded Spelling × Padded Source)}
  {name text : String}

theorem namesError_eq (h : m.1.inside.meant? = some name) : namesError m = isErrorName name := by
  rw [namesError, h]
  rfl

theorem errorStrings_of_unnamed (h : members.filter namesError = []) : errorStrings members = [] := by
  refine List.filterMap_eq_nil_iff.2 fun m hm => ?_
  rw [errorString?, if_neg (List.filter_eq_nil_iff.1 h m hm)]

/-- Once there has been a string, no more of the names may follow. -/
theorem takeError_again {found : String} :
    members.foldlM (stepMember takeError) (some found) = some (some text) ↔
      (∀ m ∈ members, m.1.inside.meant?.isSome = true) ∧ members.filter namesError = [] ∧ found = text := by
  induction members with
  | nil => simp
  | cons m members ih =>
    rw [List.foldlM_cons, stepMember]
    cases hname : m.1.inside.meant? with
    | none => simp [hname]
    | some name =>
      have hnames := namesError_eq hname
      cases hn : isErrorName name with
      | true => simp [takeError, hn, hnames]
      | false =>
        rw [hn] at hnames
        simpa [takeError, hn, hnames, hname] using ih

theorem namesErrorOnce_cons : NamesErrorOnce (m :: members) ↔ m.1.inside.meant?.isSome = true ∧
    if namesError m then
      (∀ m ∈ members, m.1.inside.meant?.isSome = true) ∧ members.filter namesError = []
    else NamesErrorOnce members := by
  constructor
  · rintro ⟨htexts, honce⟩
    obtain ⟨htext, htexts⟩ := List.forall_mem_cons.1 htexts
    refine ⟨htext, ?_⟩
    split_ifs with hm
    · rw [List.filter_cons_of_pos hm, List.length_cons, Nat.add_eq_right, List.length_eq_zero_iff] at honce
      exact ⟨htexts, honce⟩
    · rw [List.filter_cons_of_neg hm] at honce
      exact ⟨htexts, honce⟩
  · rintro ⟨htext, hrest⟩
    split_ifs at hrest with hm
    · exact ⟨List.forall_mem_cons.2 ⟨htext, hrest.1⟩, by rw [List.filter_cons_of_pos hm, hrest.2]; rfl⟩
    · exact ⟨List.forall_mem_cons.2 ⟨htext, hrest.texts⟩, by rw [List.filter_cons_of_neg hm, hrest.once]⟩

/-- Behind the string of a member nothing more is found, and without it nothing at all. -/
theorem takeError_named {found : Option String} (hfound : errorString? m = found) :
    ((found.map some).bind fun s => members.foldlM (stepMember takeError) s) = some (some text) ↔
      ((∀ m ∈ members, m.1.inside.meant?.isSome = true) ∧ members.filter namesError = []) ∧
        text ∈ errorStrings (m :: members) := by
  cases found with
  | none =>
    refine iff_of_false nofun ?_
    rintro ⟨⟨-, hunnamed⟩, hmem⟩
    rw [errorStrings, List.filterMap_cons_none hfound, ← errorStrings,
      errorStrings_of_unnamed hunnamed] at hmem
    cases hmem
  | some found =>
    have hstrings (hunnamed : members.filter namesError = []) : errorStrings (m :: members) = [found] := by
      rw [errorStrings, List.filterMap_cons_some hfound, ← errorStrings, errorStrings_of_unnamed hunnamed]
    refine takeError_again.trans ⟨?_, ?_⟩
    · rintro ⟨htexts, hunnamed, rfl⟩
      exact ⟨⟨htexts, hunnamed⟩, by rw [hstrings hunnamed]; exact List.mem_singleton_self _⟩
    · rintro ⟨⟨htexts, hunnamed⟩, hmem⟩
      rw [hstrings hunnamed] at hmem
      exact ⟨htexts, hunnamed, (List.mem_singleton.1 hmem).symm⟩

/-- A string is found if one of the names is there, once, and there is a string under it. -/
theorem takeError_eq_some_iff : members.foldlM (stepMember takeError) none = some (some text) ↔
    NamesErrorOnce members ∧ text ∈ errorStrings members := by
  induction members with
  | nil => simp [errorStrings]
  | cons m members ih =>
    rw [List.foldlM_cons, stepMember, namesErrorOnce_cons]
    cases hname : m.1.inside.meant? with
    | none => simp
    | some name =>
      have hnames := namesError_eq hname
      cases hn : isErrorName name with
      | false =>
        rw [hn] at hnames
        simpa [takeError, hn, hnames, errorStrings, errorString?] using ih
      | true =>
        rw [hn] at hnames
        have hstring : errorString? m = m.2.inside.textOf? := by rw [errorString?, if_pos hnames]
        have htake : takeError none name m.2.inside = m.2.inside.textOf?.map some := by
          rw [takeError, if_pos hn]
          rfl
        rw [Option.bind_some, htake, if_pos hnames, ← hstring]
        simpa using takeError_named rfl

def errorMember (name : String) (found : Option String) : Reader (Option String) :=
  if isErrorName name then
    if found.isSome then mismatch (.repeated errorField)
    else do
      colon
      let s ← readText
      pure (some s)
  else do
    colon
    skipValue
    pure found

def endError : Option String → Reader String
  | some s => pure s
  | none => mismatch (.missing errorField)

theorem readErrorObject_eq :
    readErrorObject = (do let found ← Reader.members errorMember none; endError found) := by
  rw [readErrorObject]
  congr 1

theorem takesByName_errorMember : TakesByName errorMember takeError := by
  intro name found m
  rw [errorMember, takeError]
  split_ifs with hname hfound
  · exact fun _ _ => rfl
  · exact decides_colon skips_readText.bind ((decides_readText m.2.inside).map some)
  · exact decides_colon_skip m found

theorem takesValues_errorMember : TakesValues errorMember := by
  intro name found cs found' left h
  rw [errorMember] at h
  split_ifs at h with hname hfound
  · cases h
  · obtain ⟨_, mid, hcolon, hread⟩ := bind_eq_ok_iff.1 h
    obtain ⟨gap, back, rfl, rfl⟩ := colon_written hcolon
    obtain ⟨text, mid, htext, hpure⟩ := bind_eq_ok_iff.1 hread
    obtain ⟨before, s, back, rfl, rfl⟩ := readText_written htext
    cases hpure
    exact ⟨gap, before, .string s, back, rfl, rfl⟩
  · obtain ⟨_, mid, hcolon, hskip⟩ := bind_eq_ok_iff.1 h
    obtain ⟨gap, back, rfl, rfl⟩ := colon_written hcolon
    obtain ⟨_, mid, hvalue, hpure⟩ := bind_eq_ok_iff.1 hskip
    obtain ⟨before, t, back, rfl, rfl⟩ := skipValue_written hvalue
    cases hpure
    exact ⟨gap, before, t, back, rfl, rfl⟩

def errorReader : Reader String :=
  record errorRecord (fun _ => readErrorList) (fun _ => readErrorObject) depthLimit

theorem skips_errorReader : Skips errorReader := skips_token

def documentError? : Source → Option String
  | .array _ [item] => item.inside.textOf?
  | .object _ members => (members.foldlM (stepMember takeError) none).join
  | _ => none

theorem outcome_errorList (gap : List Blank) (items : List (Padded Source)) (rest : List Glyph) :
    outcome (do let s ← readErrorList; endList; pure s : Reader String) (itemsText true gap items rest) =
      (documentError? (.array gap items)).map (·, rest) := by
  rw [outcome_bind, readErrorList]
  cases items with
  | nil =>
    rw [outcome_bind_ok nextField_none]
    rfl
  | cons item items =>
    rw [outcome_bind, nextField_some (decides_readText item.inside)]
    cases htext : item.inside.textOf? with
    | none => cases items <;> simp [documentError?, htext]
    | some s =>
      cases items with
      | nil =>
        rw [documentError?, htext]
        exact outcome_close s
      | cons next items => exact outcome_close_more s next items

theorem outcome_errorObject (gap : List Blank) (rest : List Glyph) :
    outcome (do let s ← readErrorObject; endObject; pure s : Reader String)
        (membersText true gap members rest) = (documentError? (.object gap members)).map (·, rest) := by
  have hclose (s : String) : outcome (do endObject; pure s : Reader String) (.char '\x7d' :: rest) =
      some (s, rest) := outcome_bind_ok rfl
  rw [outcome_bind, readErrorObject_eq, outcome_bind, outcome_byName takesByName_errorMember,
    documentError?]
  rcases members.foldlM (stepMember takeError) none with _ | _ | s
  · rfl
  · rfl
  · exact hclose s

theorem decides_errorReader (t : Source) : Decides errorReader t.chars (documentError? t) := by
  intro rest _
  cases t with
  | array gap items =>
    rw [ofChars_itemsText, outcome, errorReader, depthLimit, record_list]
    exact outcome_errorList gap items rest
  | object gap members =>
    rw [ofChars_membersText, outcome, errorReader, depthLimit, record_object]
    exact outcome_errorObject gap rest
  | number f =>
    obtain ⟨c, cs, hcs, hc⟩ := figure_begins f
    rw [Source.chars, hcs]
    exact outcome_record_wrong (not_space_of_number hc)
      ⟨ne_of_begins_number hc (by decide), ne_of_begins_number hc (by decide)⟩
  | null => exact outcome_record_wrong rfl (by decide)
  | bool b => cases b <;> exact outcome_record_wrong rfl (by decide)
  | string s => exact outcome_record_wrong rfl (by decide)

variable {cs : List Char} {s : String} {left : List Glyph}

theorem endList_written (h : endList (Glyph.ofChars cs) = .ok ((), left)) :
    ∃ (gap : List Blank) (back : List Char), cs = blankChars gap ++ ']' :: back ∧
      left = Glyph.ofChars back := by
  obtain ⟨gap, c, tail, rfl, hnext⟩ := token_written h (by nofun)
  dsimp only at hnext
  split_ifs at hnext with hclosing hcomma
  · cases hclosing
    cases hnext
    exact ⟨gap, tail, rfl, rfl⟩
  · obtain ⟨token, mid, -, hfails⟩ := bind_eq_ok_iff.1 (bind_advance.symm.trans hnext)
    split_ifs at hfails <;> cases hfails
  · cases hnext

theorem nextText_written (h : nextField true readText (Glyph.ofChars cs) = .ok (some s, left)) :
    ∃ (gap : List Blank) (spelling : Spelling) (back : List Char),
      cs = blankChars gap ++ (spelling.chars ++ back) ∧ left = Glyph.ofChars back := by
  obtain ⟨more, mid, hmore, hread⟩ := bind_eq_ok_iff.1 h
  obtain ⟨gap, c, tail, rfl, hnext⟩ := token_written hmore (by nofun)
  simp only [↓reduceIte] at hnext
  split_ifs at hnext
  · cases hnext
    cases hread
  · cases hnext
    obtain ⟨text, mid, htext, hpure⟩ := bind_eq_ok_iff.1 hread
    rw [← ofChars_cons] at htext
    obtain ⟨before, spelling, back, hcs, rfl⟩ := readText_written htext
    cases hpure
    refine ⟨gap ++ before, spelling, back, ?_, rfl⟩
    rw [hcs, blankChars, blankChars, blankChars, List.map_append, List.append_assoc]

theorem readErrorList_written
    (h : (do let s ← readErrorList; endList; pure s : Reader String) (Glyph.ofChars cs) = .ok (s, left)) :
    ∃ (t : Source) (back : List Char), '[' :: cs = t.chars ++ back ∧ left = Glyph.ofChars back := by
  obtain ⟨s, mid, hlist, hend⟩ := bind_eq_ok_iff.1 h
  obtain ⟨field, mid', hfield, hfound⟩ := bind_eq_ok_iff.1 hlist
  rcases field with _ | s'
  · cases hfound
  · obtain ⟨gap, spelling, back, rfl, rfl⟩ := nextText_written hfield
    cases hfound
    obtain ⟨_, mid, hclose, hpure⟩ := bind_eq_ok_iff.1 hend
    obtain ⟨after, back, rfl, rfl⟩ := endList_written hclose
    cases hpure
    refine ⟨.array gap [⟨[], .string spelling, after⟩], back, ?_, rfl⟩
    simp [Source.chars, Source.itemTexts, Source.commas, Padded.chars, blankChars, List.intercalate]

theorem readErrorObject_written
    (h : (do let s ← readErrorObject; endObject; pure s : Reader String) (Glyph.ofChars cs) =
      .ok (s, left)) :
    ∃ (t : Source) (back : List Char), '\x7b' :: cs = t.chars ++ back ∧ left = Glyph.ofChars back := by
  obtain ⟨s, mid, hobject, hend⟩ := bind_eq_ok_iff.1 h
  rw [readErrorObject_eq] at hobject
  obtain ⟨found, mid', hmembers, hfound⟩ := bind_eq_ok_iff.1 hobject
  obtain ⟨gap, members, back, rfl, hcs⟩ := members_written takesValues_errorMember hmembers
  rcases found with _ | s'
  · cases hfound
  · cases hfound
    cases hend
    exact ⟨.object gap members, back, hcs, rfl⟩

/-- A body in which the text of an error is found is a document. -/
theorem exists_document {body text : String} (h : run errorReader (Glyph.ofString body) = .ok text) :
    ∃ document : Padded Source, body = Source.text document := by
  obtain ⟨left, hread, hend⟩ := run_eq_ok h
  obtain ⟨before, c, tail, hbody, hnext⟩ := token_written hread (by nofun)
  dsimp only at hnext
  obtain ⟨t, back, hcs, rfl⟩ : ∃ (t : Source) (back : List Char),
      c :: tail = t.chars ++ back ∧ left = Glyph.ofChars back := by
    split_ifs at hnext with hlist hobject
    · cases hlist
      exact readErrorList_written (bind_advance.symm.trans hnext)
    · cases hobject
      exact readErrorObject_written hnext
    · exact absurd hnext wrongType_ne_ok
  obtain ⟨after, rfl⟩ := blanks_of_dropWhile hend
  refine ⟨⟨before, t, after⟩, ?_⟩
  rw [← String.ofList_toList (s := body), hbody, hcs]
  rfl

def isContainer : Source → Bool
  | .array _ _ | .object _ _ => true
  | _ => false

/-- The body is an object or a list, with or without blanks around it. -/
def HoldsContainer (body : String) : Prop :=
  ∃ document : Padded Source, isContainer document.inside = true ∧ body = Source.text document

theorem documentError?_eq_none {t : Source} (h : isContainer t = false) : documentError? t = none := by
  cases t with
  | null | bool b | number f | string s => rfl
  | array gap items => cases h
  | object gap members => cases h

theorem errorText_eq (body : String) : errorText body =
    (run errorReader (Glyph.ofString body)).toOption.getD (Text.trim body) := by
  rw [errorText, ← errorReader]
  cases run errorReader (Glyph.ofString body) <;> rfl

theorem errorText_text (document : Padded Source) : errorText (Source.text document) =
    (documentError? document.inside).getD (Text.trim (Source.text document)) := by
  have hrun := run_of_decides (p := document.map Source.chars) skips_errorReader
    (decides_errorReader document.inside)
  rw [errorText_eq, ofString_text, hrun]

theorem errorText_of_not_container {body : String} (h : ¬ HoldsContainer body) :
    errorText body = Text.trim body := by
  by_cases hdocument : ∃ document : Padded Source, body = Source.text document
  · obtain ⟨document, rfl⟩ := hdocument
    have hnone := documentError?_eq_none (Bool.eq_false_iff.2 fun hc => h ⟨document, hc, rfl⟩)
    rw [errorText_text, hnone, Option.getD_none]
  · rw [errorText_eq]
    cases hrun : run errorReader (Glyph.ofString body) with
    | error failure => rfl
    | ok text => exact absurd (exists_document hrun) hdocument

theorem container_chars {t : Source} (h : isContainer t = true) : ∃ opening inside closing,
    t.chars = opening :: (inside ++ [closing]) ∧ opening ∈ ['[', '\x7b'] ∧ closing ∈ [']', '\x7d'] := by
  cases t with
  | null | bool b | number f | string s => cases h
  | array gap items =>
    refine ⟨'[', blankChars gap ++ Source.commas (Source.itemTexts items), ']', ?_, by decide, by decide⟩
    rw [Source.chars, List.append_assoc]
  | object gap members =>
    refine ⟨'\x7b', blankChars gap ++ Source.commas (Source.memberTexts members), '\x7d', ?_,
      by decide, by decide⟩
    rw [Source.chars, List.append_assoc]

theorem trim_container {document : Padded Source} (h : isContainer document.inside = true) :
    Text.trim (Source.text document) = String.ofList document.inside.chars := by
  obtain ⟨opening, inside, closing, hchars, hopening, hclosing⟩ := container_chars h
  have hink (c : Char) (hc : c ∈ ['[', '\x7b'] ++ [']', '\x7d']) : Text.isBlank c = false := by
    simp only [List.mem_append, List.mem_cons, List.not_mem_nil, or_false] at hc
    rcases hc with (rfl | rfl) | rfl | rfl <;> rfl
  rw [Text.trim, Source.text, String.toList_ofList]
  refine congrArg String.ofList (Text.trimChars_of_ink (fun _ => Stream.isBlank_blankChars) ?_ ?_ ?_
    fun _ => Stream.isBlank_blankChars)
  · rw [Padded.map, hchars]
    exact List.cons_ne_nil _ _
  · rintro c hc
    rw [Padded.map, hchars] at hc
    cases hc
    exact hink _ (List.mem_append_left _ hopening)
  · rintro c hc
    rw [Padded.map, hchars, ← List.cons_append, List.getLast?_concat] at hc
    cases hc
    exact hink _ (List.mem_append_right _ hclosing)

theorem sublist_commas {text : List Char} {texts : List (List Char)} (h : text ∈ texts) :
    text.Sublist (Source.commas texts) := by
  obtain ⟨first, texts, rfl⟩ := List.exists_cons_of_ne_nil (List.ne_nil_of_mem h)
  rw [commas_cons]
  rcases List.mem_cons.1 h with rfl | hmem
  · exact List.sublist_append_left _ _
  · have hfurther : (',' :: text).Sublist (further texts) :=
      List.sublist_flatten_of_mem (List.mem_map_of_mem hmem)
    exact ((List.sublist_cons_self _ _).trans hfurther).trans (List.sublist_append_right _ _)

theorem length_lt_of_errorString (gap : List Blank) (h : text ∈ errorStrings members) :
    text.toList.length < (Source.object gap members).chars.length := by
  obtain ⟨m, hm, hstring⟩ := List.mem_filterMap.1 h
  obtain ⟨name, before, t, after⟩ := m
  have htext : t.textOf? = some text := by
    rw [errorString?] at hstring
    split_ifs at hstring
    exact hstring
  cases t with
  | string s =>
    have hlength := Spelling.length_le_of_meant? htext
    have hmember := (sublist_commas (Source.memberTexts_eq members ▸ List.mem_map_of_mem hm)).length_le
    simp only [Source.chars, Padded.chars, Padded.map, List.length_append, List.length_cons] at hmember ⊢
    omega
  | _ => cases htext

/-- The message of an error says what the body says. A body that is neither an object nor a list is told
as it is, white space aside. An object is told by a string that it has under one of the names if they
are names of one member and all names can be read, and by all of its text if not. -/
structure Surfaces (body message : String) : Prop where
  bare : ¬ HoldsContainer body → message = Text.trim body
  mem_iff : ∀ before gap members after, body = Source.text ⟨before, .object gap members, after⟩ →
    errorStrings members ≠ [] → (message ∈ errorStrings members ↔ NamesErrorOnce members)
  whole : ∀ before gap members after, body = Source.text ⟨before, .object gap members, after⟩ →
    message ∉ errorStrings members → message = Text.trim body

theorem documentError?_object {gap : List Blank} :
    documentError? (.object gap members) = some text ↔
      NamesErrorOnce members ∧ text ∈ errorStrings members := by
  rw [documentError?, Option.join_eq_some_iff]
  exact takeError_eq_some_iff

theorem surfaces_errorText (body : String) : Surfaces body (errorText body) := by
  refine ⟨errorText_of_not_container, ?_, ?_⟩
  · rintro before gap members after rfl hne
    rw [errorText_text]
    constructor
    · intro hmem
      cases hfound : documentError? (.object gap members) with
      | some text => exact (documentError?_object.1 hfound).1
      | none =>
        -- All of the text is longer than any string in it.
        rw [hfound, Option.getD_none, trim_container rfl] at hmem
        have hlt := length_lt_of_errorString gap hmem
        rw [String.toList_ofList] at hlt
        exact absurd hlt (Nat.lt_irrefl _)
    · intro honce
      obtain ⟨text, hmem⟩ := List.exists_mem_of_ne_nil _ hne
      rw [documentError?_object.2 ⟨honce, hmem⟩]
      exact hmem
  · rintro before gap members after rfl hnot
    rw [errorText_text] at hnot ⊢
    cases hfound : documentError? (.object gap members) with
    | none => rfl
    | some text =>
      rw [hfound] at hnot
      exact absurd (documentError?_object.1 hfound).2 hnot

variable {κ : Type}

theorem hold_failed (call : Call) {response : Response} (h : isSuccess response.status = false) :
    ((Exchange.api call : Exchange κ _).hold response.replies).2 =
      .error (.transport response.status (errorText (Glyph.lossy (Glyph.ofBytes response.body)))) := by
  rw [Exchange.hold_api]
  change response.read = _
  rw [Response.read, h]
  rfl

/-- A request that is not answered with success fails with the status of the answer, and with a message
that says what the body says. -/
theorem failed_request_surfaces (call : Call) (response : Response)
    (h : isSuccess response.status = false) :
    ∃ message, ((Exchange.api call : Exchange κ _).hold response.replies).2 =
        .error (.transport response.status message) ∧
      Surfaces (Glyph.lossy (Glyph.ofBytes response.body)) message :=
  ⟨_, hold_failed call h, surfaces_errorText _⟩

def notFound (body : String) : Response := ⟨404, body.toUTF8.data.toList⟩

theorem lossy_notFound (body : String) : Glyph.lossy (Glyph.ofBytes (notFound body).body) = body := by
  rw [notFound, Glyph.ofBytes_toUTF8, Glyph.lossy_ofString]

def plainly (text : String) : Spelling := text.toList.filterMap fun c =>
  if h : c ≠ '"' ∧ c ≠ '\\' ∧ 0x20 ≤ c.toNat then some (.plain c h) else none

def telling (name text : String) : Padded Spelling × Padded Source :=
  (.bare (plainly name), .bare (.string (plainly text)))

theorem not_holdsContainer_gone : ¬ HoldsContainer " gone\u00a0\n" := by
  rintro ⟨document, hcontainer, hbody⟩
  have htrim := trim_container hcontainer
  obtain ⟨opening, inside, closing, hchars, hopening, -⟩ := container_chars hcontainer
  have hgone : Text.trim " gone\u00a0\n" = "gone" := by decide +kernel
  rw [← hbody, hgone, hchars] at htrim
  have hchars : 'g' :: "one".toList = opening :: (inside ++ [closing]) := by
    simpa using congrArg String.toList htrim
  obtain rfl := (List.cons.inj hchars).1
  exact absurd hopening (by decide)

/-- A body in which a text and something else are told, and a body that is a text. -/
theorem failed_request_surfaces_no_such_stream :
    ((Exchange.api (.get "x" []) : Exchange Unit _).hold
        (notFound "\x7b\"msg\":\"no such stream\",\"retry\":false\x7d").replies).2 =
      .error (.transport 404 "no such stream") ∧
    ((Exchange.api (.post "x" .null) : Exchange Unit _).hold (notFound " gone\u00a0\n").replies).2 =
      .error (.transport 404 "gone") := by
  constructor
  · let members := [telling "msg" "no such stream", (.bare (plainly "retry"), .bare (.bool false))]
    have hstrings : errorStrings members = ["no such stream"] := by decide +kernel
    obtain ⟨message, hheld, hsurfaces⟩ := failed_request_surfaces (κ := Unit) (.get "x" [])
      (notFound "\x7b\"msg\":\"no such stream\",\"retry\":false\x7d") rfl
    rw [lossy_notFound] at hsurfaces
    have hmem := (hsurfaces.mem_iff [] [] members [] (by decide +kernel) (by simp [hstrings])).2
      ⟨by decide +kernel, by decide +kernel⟩
    rw [hstrings] at hmem
    rw [hheld, List.mem_singleton.1 hmem]
    rfl
  · obtain ⟨message, hheld, hsurfaces⟩ := failed_request_surfaces (κ := Unit) (.post "x" .null)
      (notFound " gone\u00a0\n") rfl
    rw [lossy_notFound] at hsurfaces
    rw [hheld, hsurfaces.bare not_holdsContainer_gone]
    rfl

def toldTwice : List (Padded Spelling × Padded Source) :=
  [telling "error" "not_found", telling "message" "no such stream"]

/-- Two of the names are as good as none: the message is neither of the strings, but all of the text. -/
theorem told_twice_not_told :
    let body := Source.text (.bare (.object [] toldTwice))
    body = "\x7b\"error\":\"not_found\",\"message\":\"no such stream\"\x7d" ∧
    errorStrings toldTwice = ["not_found", "no such stream"] ∧
    ((Exchange.api (.get "x" []) : Exchange Unit _).hold (notFound body).replies).2 =
      .error (.transport 404 body) ∧
    body ∉ errorStrings toldTwice := by
  intro body
  have hstrings : errorStrings toldTwice = ["not_found", "no such stream"] := by decide +kernel
  have htrim : Text.trim body = body := trim_container rfl
  have hnone : documentError? (.object [] toldTwice) = none := by decide +kernel
  refine ⟨by decide +kernel, hstrings, ?_, by rw [hstrings]; decide +kernel⟩
  rw [hold_failed _ rfl, lossy_notFound, errorText_text]
  change Except.error (StreamError.transport 404 ((documentError? (.object [] toldTwice)).getD
    (Text.trim body))) = _
  rw [hnone, htrim, Option.getD_none]

end SeriesClient.Http
