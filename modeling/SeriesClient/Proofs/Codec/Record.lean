import SeriesClient.Proofs.Codec.Document

/-! Records read back from their texts: what a reader of parts and fields needs of a text, with the
text that the printer writes for an object, a list, a number or a string. -/

namespace SeriesClient

open Json Reader

namespace Json.Reader

variable {α σ : Type} {chars : List Char} {a : α} {r : Reader α}

theorem run_of_reads (h : Reads r chars a) : run r (Glyph.ofChars chars) = .ok a := by
  have hread := h [] ends_nil
  rw [List.append_nil] at hread
  have hrun : (do let x ← r; atEnd; pure x : Reader α) (Glyph.ofChars chars) = .ok (a, []) :=
    (bind_ok hread).trans rfl
  simp only [run, StateT.run', hrun]
  rfl

theorem Takes.append {member : String → σ → Reader σ} {ms ms' : Members} {s s' s'' : σ}
    (h : Takes member ms s s') (h' : Takes member ms' s' s'') :
    Takes member (ms ++ ms') s s'' := by
  induction h with
  | nil => exact h'
  | cons hfirst _ ih => exact .cons hfirst (ih h')

/-- A record in an object, if its members are read. -/
theorem reads_record {expected : String} {list object : Nat → Reader α} {n : Nat} {members : Members}
    (h : ∀ rest, object n (Glyph.ofChars (memberChars members) ++ .char '\x7d' :: rest) =
      .ok (a, .char '\x7d' :: rest)) :
    Reads (record expected list object (n + 1)) (Json.chars (.object members)) a := by
  intro rest _
  rw [ofChars_object]
  refine (bind_token (g := .char '\x7b') rfl).trans ?_
  dsimp only
  rw [if_neg (by decide), if_pos rfl]
  refine (bind_ok (bind_advance.trans (h rest))).trans ?_
  exact bind_ok (endObject_cons rest)

theorem reads_listOf {item : Nat → Reader α} {n : Nat} {items : List Json} {values : List α}
    (h : ReadsEach (item n) items values) :
    Reads (listOf item (n + 1)) (Json.chars (.array items)) values := by
  intro rest _
  rw [ofChars_array]
  refine (bind_token (g := .char '[') rfl).trans ?_
  dsimp only
  rw [if_pos rfl]
  refine (bind_ok (bind_advance.trans (items_itemChars h rest))).trans ?_
  exact bind_ok (endList_cons rest)

theorem reads_optional_null : Reads (optional r) (Json.chars .null) none := by
  intro rest _
  refine (bind_token (g := .char 'n') rfl).trans ?_
  rw [if_pos rfl]
  exact bind_advance.trans (bind_ok (expectRest_ofChars ['u', 'l', 'l'] rest))

theorem reads_optional {c : Char} {cs : List Char} (hspace : isSpace (.char c) = false)
    (hc : c ≠ 'n') (h : Reads r (c :: cs) a) : Reads (optional r) (c :: cs) (some a) := by
  intro rest hrest
  refine (bind_token (g := .char c) hspace).trans ?_
  rw [if_neg (by simpa using hc)]
  exact bind_ok (h rest hrest)

theorem reads_float {chars : List Char} {n : Number} (h : Reads readNumber chars n) :
    Reads (optional readFloat) chars (some n.toFloat) := by
  obtain ⟨c, cs, rfl, hc⟩ := begins_of_reads_number h
  refine reads_optional (not_space_of_number hc) (ne_of_begins_number hc (by decide)) ?_
  intro rest hrest
  refine (bind_token (g := .char c) (not_space_of_number hc)).trans ?_
  dsimp only
  rw [if_pos (by simpa using hc)]
  exact bind_ok (h rest hrest)

theorem reads_text {cs : List Char} {s : String} (h : Spells cs s) : Reads readText ('"' :: cs) s := by
  intro rest _
  refine (bind_token (g := .char '"') rfl).trans ?_
  dsimp only
  rw [if_pos rfl]
  exact bind_advance.trans (h rest)

theorem reads_optional_text {cs : List Char} {s : String} (h : Spells cs s) :
    Reads (optional readText) ('"' :: cs) (some s) :=
  reads_optional rfl (by decide) (reads_text h)

end Json.Reader

end SeriesClient
