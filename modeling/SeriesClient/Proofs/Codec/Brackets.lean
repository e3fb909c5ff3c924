import SeriesClient.Proofs.Codec.Spelled
import Mathlib.Data.List.Forall2

/-! Lists and objects as readers take them apart, whatever texts stand between their commas. What comes of
a list is told from what comes of its elements one by one, and so with the members of an object. Which
failure it is that comes of an element that cannot be read is left out of account. -/

namespace SeriesClient.Json

namespace Reader

open Source (commas)

variable {α β σ : Type} {r : Reader α} {f : α → Reader β} {text rest : List Glyph}

/-- What a reader takes off a text and what it leaves, if it does not fail. -/
def outcome (r : Reader α) (text : List Glyph) : Option (α × List Glyph) := (r text).toOption

theorem outcome_eq_some_iff {p : α × List Glyph} : outcome r text = some p ↔ r text = .ok p := by
  rw [outcome]
  cases r text <;> simp [Except.toOption]

theorem outcome_bind (r : Reader α) (f : α → Reader β) (text : List Glyph) :
    outcome (r >>= f) text = (outcome r text).bind fun p => outcome (f p.1) p.2 := by
  change Except.toOption (r text >>= fun p => f p.1 p.2) = _
  unfold outcome
  cases r text <;> rfl

theorem outcome_bind_ok {a : α} (h : r text = .ok (a, rest)) :
    outcome (r >>= f) text = outcome (f a) rest := by
  rw [outcome, bind_ok h, outcome]

/-- Before anything that fails for sure. -/
theorem outcome_bind_none (h : ∀ a text, outcome (f a) text = none) : outcome (r >>= f) text = none := by
  rw [outcome_bind]
  cases outcome r text with
  | none => rfl
  | some p => exact h p.1 p.2

/-- The reader finds that there is something or that there is nothing in the text, wherever a value
ends. -/
def Decides (r : Reader α) (chars : List Char) (found : Option α) : Prop :=
  ∀ rest, Ends rest → outcome r (Glyph.ofChars chars ++ rest) = found.map (·, rest)

variable {chars : List Char} {found : Option α}

theorem Reads.decides {a : α} (h : Reads r chars a) : Decides r chars (some a) := fun rest hrest =>
  outcome_eq_some_iff.2 (h rest hrest)

theorem Decides.map (h : Decides r chars found) (g : α → β) :
    Decides (do let a ← r; pure (g a)) chars (found.map g) := by
  intro rest hrest
  rw [outcome_bind, h rest hrest]
  cases found <;> rfl

/-- A text that can be told from the end of a list. -/
def Begins (chars : List Char) : Prop :=
  ∃ c cs, chars = c :: cs ∧ isSpace (.char c) = false ∧ c ≠ ']'

abbrev Slot := Padded (List Char)

def further (texts : List (List Char)) : List Char := texts.flatMap (',' :: ·)

theorem commas_cons (text : List Char) (texts : List (List Char)) :
    commas (text :: texts) = text ++ further texts := by
  induction texts generalizing text with
  | nil => simp [commas, further, List.intercalate]
  | cons next texts ih =>
    have hnext : commas (text :: next :: texts) = text ++ ',' :: commas (next :: texts) := by
      simp [commas, List.intercalate]
    rw [hnext, ih]
    rfl

theorem length_le_further (texts : List (List Char)) : texts.length ≤ (further texts).length := by
  induction texts with
  | nil => exact Nat.le_refl 0
  | cons text texts ih =>
    rw [further] at ih ⊢
    simp only [List.flatMap_cons, List.length_cons, List.length_append]
    omega

/-- What is left between two brackets, before the first text or behind one of them. -/
def between (first : Bool) (gap : List Blank) (texts : List (List Char)) (closing : Char)
    (rest : List Glyph) : List Glyph :=
  Glyph.ofChars (blankChars gap) ++
    (Glyph.ofChars (if first then commas texts else further texts) ++ .char closing :: rest)

variable {first : Bool} {gap : List Blank} {texts : List (List Char)} {closing : Char}

theorem ends_between (h : Ends (.char closing :: rest)) :
    Ends (between false gap texts closing rest) := by
  refine ends_blanks ?_ gap
  cases texts with
  | nil => exact h
  | cons text texts => exact ends_comma

theorem length_lt_between :
    texts.length < (between true gap texts closing rest).length + 1 := by
  cases texts with
  | nil => exact Nat.succ_pos _
  | cons text texts =>
    have hle := length_le_further texts
    simp only [between, if_true, commas_cons, List.length_append, List.length_cons, length_ofChars]
    omega

def listText (first : Bool) (gap : List Blank) (slots : List Slot) (rest : List Glyph) : List Glyph :=
  between first gap (slots.map Padded.chars) ']' rest

variable {slot : Slot} {slots : List Slot}

theorem skips_moreItems : Skips (moreItems first) := skips_token

theorem moreItems_none :
    moreItems first (listText first gap [] rest) = .ok (false, .char ']' :: rest) := by
  cases first <;> exact (skips_moreItems gap _).trans rfl

theorem moreItems_some (h : Begins slot.inside) :
    moreItems first (listText first gap (slot :: slots) rest) =
      .ok (true, Glyph.ofChars slot.inside ++ listText false slot.after slots rest) := by
  obtain ⟨c, cs, hcs, hspace, hc⟩ := h
  have htoken {f : Option Glyph → Reader Bool} (text : List Glyph) :
      (peekToken >>= f) (Glyph.ofChars (blankChars slot.before) ++
          (Glyph.ofChars slot.inside ++ text)) =
        f (some (.char c)) (Glyph.ofChars slot.inside ++ text) := by
    rw [hcs]
    exact (skips_token slot.before _).trans (bind_token (g := .char c) hspace)
  rw [listText, between, skips_moreItems]
  cases first with
  | true =>
    have htext : Glyph.ofChars (commas ((slot :: slots).map Padded.chars)) ++ .char ']' :: rest =
        Glyph.ofChars (blankChars slot.before) ++
          (Glyph.ofChars slot.inside ++ listText false slot.after slots rest) := by
      simp [commas_cons, Padded.chars, listText, between]
    rw [if_pos rfl, htext]
    refine (htoken _).trans ?_
    simp only [Glyph.char.injEq, hc, if_false, if_true]
    rfl
  | false =>
    have htext : Glyph.ofChars (further ((slot :: slots).map Padded.chars)) ++ .char ']' :: rest =
        .char ',' :: (Glyph.ofChars (blankChars slot.before) ++
          (Glyph.ofChars slot.inside ++ listText false slot.after slots rest)) := by
      simp [further, Padded.chars, listText, between]
    rw [if_neg Bool.false_ne_true, htext]
    refine (bind_token (g := .char ',') rfl).trans ?_
    dsimp only
    rw [if_neg (by decide), if_neg (by decide), if_pos rfl, bind_advance]
    refine (htoken _).trans ?_
    simp only [Glyph.char.injEq, hc, if_false]
    rfl

theorem ends_listText : Ends (listText false gap slots rest) := ends_between ends_bracket

abbrev DecidesEach (r : Reader α) (g : β → Option α) (slots : List Slot) (bs : List β) : Prop :=
  List.Forall₂ (fun slot b => Begins slot.inside ∧ Decides r slot.inside (g b)) slots bs

variable {g : β → Option α} {bs : List β}

theorem outcome_itemsUpTo (h : DecidesEach r g slots bs) {fuel : Nat} (hfuel : slots.length < fuel)
    (first : Bool) (gap : List Blank) (rest : List Glyph) :
    outcome (itemsUpTo r fuel first) (listText first gap slots rest) =
      (bs.mapM g).map (·, .char ']' :: rest) := by
  induction h generalizing fuel first gap with
  | nil =>
    obtain ⟨fuel, rfl⟩ := Nat.exists_eq_add_one_of_ne_zero (Nat.ne_of_gt hfuel)
    exact outcome_bind_ok moreItems_none
  | @cons slot b slots bs hslot hslots ih =>
    obtain ⟨fuel, rfl⟩ := Nat.exists_eq_add_one_of_ne_zero (Nat.ne_of_gt (Nat.zero_lt_of_lt hfuel))
    refine (outcome_bind_ok (moreItems_some hslot.1)).trans ?_
    rw [if_pos rfl, outcome_bind, hslot.2 _ ends_listText, List.mapM_cons]
    cases g b with
    | none => rfl
    | some a =>
      simp only [Option.map_some, Option.bind_some, outcome_bind, ih (Nat.lt_of_succ_lt_succ hfuel)]
      cases bs.mapM g <;> rfl

theorem outcome_items (h : DecidesEach r g slots bs) (gap : List Blank) (rest : List Glyph) :
    outcome (Reader.items r) (listText true gap slots rest) =
      (bs.mapM g).map (·, .char ']' :: rest) := by
  have hfuel : (slots.map Padded.chars).length < (listText true gap slots rest).length + 1 :=
    length_lt_between
  rw [List.length_map] at hfuel
  exact outcome_itemsUpTo h hfuel true gap rest

theorem items_of_reads {as : List α}
    (h : List.Forall₂ (fun (slot : Slot) a => Begins slot.inside ∧ Reads r slot.inside a) slots as)
    (gap : List Blank) (rest : List Glyph) :
    Reader.items r (listText true gap slots rest) = .ok (as, .char ']' :: rest) := by
  have heach : DecidesEach r some slots as := h.imp fun _ _ hslot => ⟨hslot.1, hslot.2.decides⟩
  have hsome : as.mapM some = some (as.map id) := List.mapM_pure
  rw [← outcome_eq_some_iff, outcome_items heach, hsome, List.map_id, Option.map_some]

def valueChars (m : Slot × Slot) : List Char :=
  blankChars m.1.after ++ ':' :: (blankChars m.2.before ++ m.2.inside)

def memberText (m : Slot × Slot) : List Char :=
  blankChars m.1.before ++ '"' :: (m.1.inside ++ (valueChars m ++ blankChars m.2.after))

def objectText (first : Bool) (gap : List Blank) (ms : List (Slot × Slot)) (rest : List Glyph) :
    List Glyph :=
  between first gap (ms.map memberText) '\x7d' rest

variable {m : Slot × Slot} {ms : List (Slot × Slot)}

theorem skips_moreMembers : Skips (moreMembers first) := skips_token

theorem moreMembers_none :
    moreMembers first (objectText first gap [] rest) = .ok (false, .char '\x7d' :: rest) := by
  cases first <;> exact (skips_moreMembers gap _).trans rfl

theorem moreMembers_some :
    moreMembers first (objectText first gap (m :: ms) rest) =
      .ok (true, .char '"' :: (Glyph.ofChars m.1.inside ++
        (Glyph.ofChars (valueChars m) ++ objectText false m.2.after ms rest))) := by
  rw [objectText, between, skips_moreMembers]
  cases first with
  | true =>
    have htext : Glyph.ofChars (commas ((m :: ms).map memberText)) ++ .char '\x7d' :: rest =
        Glyph.ofChars (blankChars m.1.before) ++ .char '"' :: (Glyph.ofChars m.1.inside ++
          (Glyph.ofChars (valueChars m) ++ objectText false m.2.after ms rest)) := by
      simp [commas_cons, memberText, objectText, between]
    rw [if_pos rfl, htext, skips_moreMembers]
    rfl
  | false =>
    have htext : Glyph.ofChars (further ((m :: ms).map memberText)) ++ .char '\x7d' :: rest =
        .char ',' :: (Glyph.ofChars (blankChars m.1.before) ++ .char '"' ::
          (Glyph.ofChars m.1.inside ++
            (Glyph.ofChars (valueChars m) ++ objectText false m.2.after ms rest))) := by
      simp [further, memberText, objectText, between]
    rw [if_neg Bool.false_ne_true, htext]
    refine (bind_token (g := .char ',') rfl).trans ?_
    dsimp only
    rw [if_neg (by decide), if_neg (by decide), if_pos rfl, bind_advance]
    exact (skips_token _ _).trans rfl

theorem ends_objectText : Ends (objectText false gap ms rest) := ends_between ends_brace

def Spells (chars : List Char) (name : String) : Prop :=
  ∀ text, readString (Glyph.ofChars chars ++ text) = .ok (name, text)

/-- What comes of members that are taken one after another: a state, or nothing if one of them cannot be
taken. -/
inductive Folds (member : String → σ → Reader σ) : List (Slot × Slot) → σ → Option σ → Prop where
  | nil {s : σ} : Folds member [] s (some s)
  | stop {m : Slot × Slot} {ms : List (Slot × Slot)} {name : String} {s : σ}
      (hname : Spells m.1.inside name) (hvalue : Decides (member name s) (valueChars m) none) :
      Folds member (m :: ms) s none
  | cons {m : Slot × Slot} {ms : List (Slot × Slot)} {name : String} {s s' : σ} {found : Option σ}
      (hname : Spells m.1.inside name) (hvalue : Decides (member name s) (valueChars m) (some s'))
      (hms : Folds member ms s' found) : Folds member (m :: ms) s found

variable {member : String → σ → Reader σ} {s : σ}

/-- The members from one of them on are taken after its name and its value. -/
theorem outcome_membersUpTo_cons {name : String} {found : Option σ} {fuel : Nat}
    (hname : Spells m.1.inside name) (hvalue : Decides (member name s) (valueChars m) found)
    (first : Bool) (gap : List Blank) (rest : List Glyph) :
    outcome (membersUpTo member (fuel + 1) first s) (objectText first gap (m :: ms) rest) =
      found.bind fun s' =>
        outcome (membersUpTo member fuel false s') (objectText false m.2.after ms rest) := by
  refine (outcome_bind_ok moreMembers_some).trans ?_
  rw [if_pos rfl]
  refine (outcome_bind_ok rfl).trans ((outcome_bind_ok (hname _)).trans ?_)
  rw [outcome_bind, hvalue _ ends_objectText]
  cases found <;> rfl

theorem outcome_membersUpTo {found : Option σ} (h : Folds member ms s found) {fuel : Nat}
    (hfuel : ms.length < fuel) (first : Bool) (gap : List Blank) (rest : List Glyph) :
    outcome (membersUpTo member fuel first s) (objectText first gap ms rest) =
      found.map (·, .char '\x7d' :: rest) := by
  induction h generalizing fuel first gap with
  | nil =>
    obtain ⟨fuel, rfl⟩ := Nat.exists_eq_add_one_of_ne_zero (Nat.ne_of_gt hfuel)
    exact outcome_bind_ok moreMembers_none
  | stop hname hvalue =>
    obtain ⟨fuel, rfl⟩ := Nat.exists_eq_add_one_of_ne_zero (Nat.ne_of_gt (Nat.zero_lt_of_lt hfuel))
    exact outcome_membersUpTo_cons hname hvalue first gap rest
  | cons hname hvalue _ ih =>
    obtain ⟨fuel, rfl⟩ := Nat.exists_eq_add_one_of_ne_zero (Nat.ne_of_gt (Nat.zero_lt_of_lt hfuel))
    exact (outcome_membersUpTo_cons hname hvalue first gap rest).trans
      (ih (Nat.lt_of_succ_lt_succ hfuel) false _)

theorem outcome_members {found : Option σ} (h : Folds member ms s found) (gap : List Blank)
    (rest : List Glyph) :
    outcome (Reader.members member s) (objectText true gap ms rest) =
      found.map (·, .char '\x7d' :: rest) := by
  have hfuel : (ms.map memberText).length < (objectText true gap ms rest).length + 1 :=
    length_lt_between
  rw [List.length_map] at hfuel
  exact outcome_membersUpTo h hfuel true gap rest

theorem colon_valueChars (m : Slot × Slot) (rest : List Glyph) :
    colon (Glyph.ofChars (valueChars m) ++ rest) =
      .ok ((), Glyph.ofChars (blankChars m.2.before) ++ (Glyph.ofChars m.2.inside ++ rest)) := by
  simp only [valueChars, ofChars_append, ofChars_cons, List.append_assoc, List.cons_append]
  exact (skips_token _ _).trans rfl

/-- A reader that does not mind blanks, behind a colon. -/
theorem decides_colon {m : Slot × Slot} (hskips : Skips r) (h : Decides r m.2.inside found) :
    Decides (do colon; r) (valueChars m) found := by
  intro rest hrest
  rw [outcome_bind_ok (colon_valueChars m rest), outcome, hskips]
  exact h rest hrest

end Reader

end SeriesClient.Json
