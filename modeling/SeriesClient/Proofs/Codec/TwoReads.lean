import SeriesClient.Proofs.Codec.Direct
import SeriesClient.Proofs.Codec.Utf8
import SeriesClient.Proofs.Handle.Use
import SeriesClient.Push.Client
import SeriesClient.Http.Api

/-! Datapoints are read in two ways. What the server answers is read as a document, its members put into
order by name, and the records are taken out of that. What it pushes is read straight from the text, a
record at a time, and parts that belong to no field are passed over. Both ways find the same datapoints
in a source that stands for a document. They differ on a source that stands for none because of a part
that is passed over. -/

namespace SeriesClient

open Json Reader
open Source (Stands)

namespace Json

def Source.text (document : Padded Source) : String :=
  String.ofList (document.map Source.chars).chars

namespace Reader

variable {α : Type} {r : Reader α}

theorem run_of_decides {p : Padded (List Char)} {found : Option α} (hskips : Skips r)
    (h : Decides r p.inside found) : (run r (Glyph.ofChars p.chars)).toOption = found := by
  have hrun (text : List Glyph) : (run r text).toOption =
      (outcome (do let x ← r; atEnd; pure x : Reader α) text).map Prod.fst := by
    rw [run, StateT.run', outcome]
    cases (do let x ← r; atEnd; pure x : Reader α) text <;> rfl
  have hends : Ends (Glyph.ofChars (blankChars p.after)) := by
    simpa using ends_blanks ends_nil p.after
  have hread : outcome r (Glyph.ofChars p.chars) =
      found.map (·, Glyph.ofChars (blankChars p.after)) := by
    rw [Padded.chars, ofChars_append, outcome, hskips, ofChars_append]
    exact h _ hends
  have hend (x : α) : outcome (do atEnd; pure x : Reader α) (Glyph.ofChars (blankChars p.after)) =
      some (x, []) := by
    have hskips : Skips atEnd := skips_token
    have hblank := hskips p.after []
    rw [List.append_nil] at hblank
    exact outcome_bind_ok (hblank.trans rfl)
  rw [hrun, outcome_bind, hread]
  cases found with
  | none => rfl
  | some x => rw [Option.map_some, Option.bind_some, hend]; rfl

end Reader

theorem ofString_text (document : Padded Source) :
    Glyph.ofString (Source.text document) = Glyph.ofChars (document.map Source.chars).chars := by
  rw [Glyph.ofString, Source.text, String.toList_ofList]

variable {document : Padded Source} {v : Json} {n : Nat}

theorem parse_text (h : Stands depthLimit document.inside v) :
    parse (Glyph.ofString (Source.text document)) = .ok v := by
  rw [parse, ofString_text]
  exact ok_of_toOption (run_of_decides (p := document.map Source.chars) (skips_readValue depthLimit)
    (reads_source h).decides)

theorem not_isBlank_of_number {c : Char} (hc : c = '-' ∨ (Numeral.digit? (.char c)).isSome = true) :
    Text.isBlank c = false := by
  rcases hc with rfl | hc
  · decide
  · simp only [Numeral.digit?, Option.isSome_ite, Bool.and_eq_true, decide_eq_true_eq, Char.le_def,
      UInt32.le_iff_toNat_le] at hc
    obtain ⟨hlow, hhigh⟩ : 48 ≤ c.toNat ∧ c.toNat ≤ 57 := hc
    simp only [Text.isBlank, Bool.or_eq_false_iff, Bool.and_eq_false_iff, decide_eq_false_iff_not,
      beq_eq_false_iff_ne]
    omega

/-- A value begins with a character that is not white space. -/
theorem exists_ink {t : Source} (h : t.value? none = some v) :
    ∃ c ∈ t.chars, Text.isBlank c = false := by
  obtain ⟨c, cs, hcs, -, hbegun⟩ := begun_of_value h
  refine ⟨c, hcs ▸ List.mem_cons_self, ?_⟩
  cases hbegun with
  | number _ hc => exact not_isBlank_of_number hc
  | null | yes | no | string | array | object => decide

theorem not_isAllBlank_text (h : document.inside.value? none = some v) :
    Text.isAllBlank (Source.text document) = false := by
  obtain ⟨c, hmem, hc⟩ := exists_ink h
  have hmem : c ∈ (document.map Source.chars).chars :=
    List.mem_append_right _ (List.mem_append_left _ hmem)
  rw [Text.isAllBlank, Source.text, String.toList_ofList]
  exact List.all_eq_false.2 ⟨c, hmem, by simp [hc]⟩

end Json

namespace Http

variable {document : Padded Source} {v : Json} {status : Nat}

theorem read_response (h : Stands depthLimit document.inside v) (hstatus : isSuccess status = true) :
    (Response.mk status (Source.text document).toUTF8.data.toList).read = .ok v.normalize := by
  have hparse : parseNormal (Glyph.ofString (Source.text document)) = .ok v.normalize := by
    rw [parseNormal, parse_text h]
    rfl
  simp only [Response.read, Glyph.ofBytes_toUTF8, Glyph.lossy_ofString, hstatus, if_true, bodyDocument,
    not_isAllBlank_text h.value, hparse, Bool.false_eq_true, if_false]

end Http

/-- What is replied if whatever the API is asked is answered with the same response. -/
def Http.Response.replies {κ : Type} (response : Http.Response) : Replies κ := fun _ question =>
  match question with
  | .api _ => response.read
  | .pushInsert _ _ => false
  | .subscribe _ _ => .ok ()
  | .unsubscribe _ => .ok ()

namespace Update

/-- The frame by which datapoints are pushed on a channel, both as they are written. -/
def frame (channel : Spelling) (data : Padded Source) : String :=
  "\x7b\"stream\":" ++ String.ofList channel.chars ++ ",\"data\":" ++ Source.text data ++ "\x7d"

def frameMembers (channel : Spelling) (data : Padded Source) : List (Padded Spelling × Padded Source) :=
  [(.bare [.plain 's' (by decide), .plain 't' (by decide), .plain 'r' (by decide),
      .plain 'e' (by decide), .plain 'a' (by decide), .plain 'm' (by decide)],
      .bare (.string channel)),
    (.bare [.plain 'd' (by decide), .plain 'a' (by decide), .plain 't' (by decide),
      .plain 'a' (by decide)], data)]

def frameSource (channel : Spelling) (data : Padded Source) : Source :=
  .object [] (frameMembers channel data)

theorem ofString_frame (channel : Spelling) (data : Padded Source) :
    Glyph.ofString (frame channel data) = Glyph.ofChars (frameSource channel data).chars := by
  have hchars : (frame channel data).toList = (frameSource channel data).chars := by
    simp [frame, frameSource, frameMembers, Source.text, Source.chars, Source.memberTexts, commas_cons,
      further, Padded.bare, Padded.map, Padded.chars, Spelling.chars, Spelling.rest, blankChars,
      Piece.chars]
  rw [Glyph.ofString, hchars]

variable {channel : Spelling} {c : String} {data : Padded Source} {v : Json}

/-- A frame is read if its datapoints can be taken out of the document that it pushes. -/
theorem decode_frame (hchannel : channel.text? none = some c) (hdata : Stands 126 data.inside v) :
    (decode (Glyph.ofBytes (frame channel data).toUTF8.data.toList)).toOption =
      (Datapoint.listOfJson v).toOption.map fun points => ⟨c, points⟩ := by
  have hstring : Stands 126 (.string channel) (.string c) :=
    ⟨by rw [Source.value?, hchannel]; rfl, Nat.zero_le _⟩
  have hmembers : Source.StandMembers 126 (frameMembers channel data)
      [("stream", .string c), ("data", v)] := .cons ⟨rfl, hstring⟩ (.cons ⟨rfl, hdata⟩ .nil)
  have hfields : ([("stream", .string c), ("data", v)] : Members).foldlM
      (fun (f : Fields) m => f.takeMember m.1 m.2) {} =
        (Datapoint.listOfJson v).toOption.map fun points => ⟨some c, some points⟩ := by
    have hchannel : Fields.takeMember {} "stream" (.string c) = some { channel := some c } := rfl
    rw [List.foldlM_cons, hchannel]
    cases h : Datapoint.listOfJson v <;> simp [Fields.takeMember, h, Except.toOption]
  have hskips : Skips (read depthLimit) := skips_token
  have hrun := run_of_decides (p := .bare (frameSource channel data).chars) hskips
    (decides_object hmembers)
  have hchars : (Padded.bare (frameSource channel data).chars).chars = (frameSource channel data).chars := by
    simp [Padded.bare, Padded.chars, blankChars]
  rw [hchars, hfields] at hrun
  rw [decode, Glyph.ofBytes_toUTF8, ofString_frame, hrun]
  cases (Datapoint.listOfJson v).toOption <;> rfl

end Update

variable {κ : Type} {data : Padded Source} {v : Json} {status : Nat}

theorem Stream.hold_query_replies (s : Stream) (q : Query) (response : Http.Response) :
    ((s.query q : Exchange κ _).hold response.replies).2 = response.read.bind readPoints := by
  rw [query, Exchange.hold_map, Exchange.hold_api]
  rfl

/-- A query finds the datapoints that can be taken out of the document that it is answered with. -/
theorem Stream.hold_query (s : Stream) (q : Query) (hdata : Stands depthLimit data.inside v)
    (hnull : v ≠ .null) (hdistinct : v.Distinct) (hstatus : Http.isSuccess status = true) :
    (((s.query q : Exchange κ _).hold
        (Http.Response.mk status (Source.text data).toUTF8.data.toList).replies).2).toOption =
      (Datapoint.listOfJson v).toOption := by
  have hnormal : v.normalize ≠ .null := by
    cases v <;> simp_all [Json.normalize]
  have hanswer : Datapoint.listOfAnswer v.normalize = Datapoint.listOfJson v.normalize := by
    cases h : v.normalize <;> first | rfl | exact absurd h hnormal
  rw [hold_query_replies, Http.read_response hdata hstatus, Except.bind, readPoints, hanswer,
    ← Datapoint.listOfJson_normalize hdistinct]
  cases Datapoint.listOfJson v.normalize <;> rfl

/-- A source that stands for a document, `lone` being what stands for a surrogate without its other half.
The document is not `null`, it nests at most 126 lists and objects, and no object in it has two members
of one name. -/
structure Json.Source.Sound (lone : Option Char) (t : Source) (v : Json) : Prop where
  value : t.value? lone = some v
  not_null : v ≠ .null
  nesting : v.depth ≤ 126
  distinct : v.Distinct

/-- The datapoints that a query finds in an answer are those that are found if the same text is pushed,
on whatever channel; and if the query finds that they are none, then the frame is not decoded either
and no callback is run. -/
theorem pushed_as_queried {channel : Spelling} {c : String} (s : Stream) (q : Query)
    (hdata : data.inside.Sound none v) (hchannel : channel.text? none = some c)
    (hstatus : Http.isSuccess status = true) :
    let queried := ((s.query q : Exchange κ _).hold
      (Http.Response.mk status (Source.text data).toUTF8.data.toList).replies).2
    let pushed := (Update.frame channel data).toUTF8.data.toList
    (∀ points, queried = .ok points → Update.decode (Glyph.ofBytes pushed) = .ok ⟨c, points⟩) ∧
      ∀ cause, queried = .error cause →
        (∃ failure, Update.decode (Glyph.ofBytes pushed) = .error failure) ∧
          ∀ registry : Push.Registry κ, Push.Client.dispatch registry pushed = [] := by
  intro queried pushed
  have hquery : queried.toOption = (Datapoint.listOfJson v).toOption :=
    s.hold_query q ⟨hdata.value, Nat.le_succ_of_le hdata.nesting⟩ hdata.not_null hdata.distinct hstatus
  have hpush : (Update.decode (Glyph.ofBytes pushed)).toOption =
      queried.toOption.map fun points => ⟨c, points⟩ := by
    rw [hquery]
    exact Update.decode_frame hchannel ⟨hdata.value, hdata.nesting⟩
  constructor
  · intro points h
    rw [h] at hpush
    exact ok_of_toOption hpush
  · intro cause h
    rw [h] at hpush
    obtain ⟨failure, hfailure⟩ := error_of_toOption hpush
    refine ⟨⟨failure, hfailure⟩, fun registry => ?_⟩
    rw [Push.Client.dispatch, hfailure]

def one : Figure := ⟨false, .digits 0 [], none, none⟩

theorem number?_one : one.number? = some (.integer 1 (by decide)) := by
  simp [Figure.number?, one, Figure.numeral, Figure.wholeDigits, digitNumbers, Numeral.value,
    Numeral.takeWhole, Numeral.wordBound, Fits, Except.toOption]

def samples : Padded Source :=
  ⟨[.newline], .array []
    [⟨[], .object [.space]
        [(.bare [.plain 'x' (by decide)], .bare (.array [] [.bare .null])),
          (⟨[.tab], [.plain 'd' (by decide)], []⟩, ⟨[], .number one, [.space]⟩)],
        [.space]⟩,
      .bare (.array [] [.bare (.number one),
        .bare (.string [.pair ⟨⟨13, true⟩, ⟨8, false⟩, ⟨3, false⟩, ⟨13, false⟩⟩
          ⟨⟨13, false⟩, ⟨14, false⟩, ⟨0, false⟩, ⟨0, false⟩⟩ (by decide) (by decide)])])], []⟩

def sampleDocument : Json :=
  .array [.object [("x", .array [.null]), ("d", .number (.integer 1 (by decide)))],
    .array [.number (.integer 1 (by decide)), .string "😀"]]

def samplePoints : List Datapoint :=
  [⟨none, Json.number (.integer 1 (by decide)), none⟩, ⟨some (Float.ofInt 1), Json.string "😀", none⟩]

theorem samples_sound : samples.inside.Sound none sampleDocument := by
  have hvalue : samples.inside.value? none = some sampleDocument := by
    simp only [samples, Source.value?, Source.itemValues?, Source.memberValues?, number?_one,
      Padded.bare]
    rfl
  refine ⟨hvalue, ?_, by decide, ?_⟩
  · intro hnull
    cases hnull
  · simp [sampleDocument, Distinct, DistinctItems, DistinctMembers, names]

theorem pushed_as_queried_samples :
    (((Stream.named "u/d/s").query Query.all : Exchange Unit _).hold
        (Http.Response.mk 200 (Source.text samples).toUTF8.data.toList).replies).2 = .ok samplePoints ∧
      Update.decode (Glyph.ofBytes
        (Update.frame [.plain 's' (by decide)] samples).toUTF8.data.toList) = .ok ⟨"s", samplePoints⟩ := by
  have hqueried := (Stream.named "u/d/s").hold_query (κ := Unit) Query.all
    ⟨samples_sound.value, by decide⟩ samples_sound.not_null samples_sound.distinct
    (by decide : Http.isSuccess 200 = true)
  have hqueried := ok_of_toOption (hqueried.trans (by rfl : _ = some samplePoints))
  exact ⟨hqueried, (pushed_as_queried (κ := Unit) (Stream.named "u/d/s") Query.all samples_sound rfl
    (by decide)).1 samplePoints hqueried⟩

/-- A datapoint with a member of no field, the string of which is half of a surrogate pair. -/
def halved : Padded Source :=
  .bare (.array [] [.bare (.object []
    [(.bare [.plain 'd' (by decide)], .bare (.bool true)),
      (.bare [.plain 'x' (by decide)],
        .bare (.string [.unit ⟨⟨13, false⟩, ⟨8, false⟩, ⟨0, false⟩, ⟨0, false⟩⟩]))])])

/-- A surrogate without its other half is refused where the text is read as a document, but not in a part
that is passed over. -/
theorem pushed_not_queried :
    Source.text halved = "[\x7b\"d\":true,\"x\":\"\\ud800\"\x7d]" ∧
      halved.inside.Sound (some '\uFFFD')
        (.array [.object [("d", .bool true), ("x", .string "\uFFFD")]]) ∧
      (∃ cause, (((Stream.named "u/d/s").query Query.all : Exchange Unit _).hold
        (Http.Response.mk 200 (Source.text halved).toUTF8.data.toList).replies).2 = .error cause) ∧
      Update.decode (Glyph.ofBytes
        (Update.frame [.plain 's' (by decide)] halved).toUTF8.data.toList) =
          .ok ⟨"s", [⟨none, Json.bool true, none⟩]⟩ := by
  obtain ⟨failure, hparse⟩ : ∃ failure, parseNormal (Glyph.ofString (Source.text halved)) =
      .error failure := error_of_toOption (Option.isNone_iff_eq_none.1 (by decide +kernel))
  refine ⟨by decide +kernel, ⟨rfl, nofun, by decide, ?_⟩, ?_, ?_⟩
  · simp [Distinct, DistinctItems, DistinctMembers, names]
  · rw [Stream.hold_query_replies]
    have hblank : Text.isAllBlank (Source.text halved) = false := by decide +kernel
    simp only [Http.Response.read, Glyph.ofBytes_toUTF8, Glyph.lossy_ofString, Http.bodyDocument,
      hblank, hparse]
    exact ⟨_, rfl⟩
  · rw [Glyph.ofBytes_toUTF8, Update.ofString_frame]
    rfl

end SeriesClient
