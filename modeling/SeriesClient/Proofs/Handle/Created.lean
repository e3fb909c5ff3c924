import SeriesClient.Proofs.Codec.TwoReads
import SeriesClient.Proofs.Codec.RoundTrip
import SeriesClient.Proofs.Handle.Mirror
import SeriesClient.Proofs.Http.Confined

/-! A stream that is created with a schema. The schema goes to the server as a text, comes back in the
answer, there as a text inside a text or as a document, and is read from the metadata once more. So two
texts are written and two are read, and what was sent is what `schema` gives, until the server tells the
handle something else. -/

namespace SeriesClient

open Json Reader
open Source (Stands)

variable {κ : Type}

namespace Schema

variable {schema : Json} {place base : Uri}

theorem followLinks_nil (r : Registry) (fuel : Nat) (seen : List Uri) :
    followLinks r fuel seen [] = .ok () := by
  cases fuel <;> simp [followLinks]

/-- Only the form of a schema counts if it refers to nothing, whatever else is known. -/
theorem check_of_unlinked (hobject : schema.isObject = true)
    (hplace : Registry.rootPlace? schema = some place)
    (hsurvey : ∀ known, ∃ s, Survey.document ⟨known, []⟩ place ⟨.draft4, schema⟩ = .ok s ∧
      s.referred = [])
    (hconforms : conforms schema = true)
    (hbase : placeIn? place (Draft.draft4.id? schema) = some base)
    (hlinks : links .draft4 base schema = .ok []) : check schema = .ok () := by
  obtain ⟨s, hsurvey, hreferred⟩ := hsurvey Registry.standard
  have hregistry : Registry.ofDocument schema = .ok s.registry := by
    rw [Registry.ofDocument, hplace]
    simp only [hsurvey, bind, Except.bind, hreferred, List.find?_nil, pure, Except.pure]
  have husable : checkUsable s.registry place schema = .ok () := by
    rw [checkUsable, hbase]
    simp only [hlinks, bind, Except.bind, followLinks_nil]
  rw [check, hobject, hregistry]
  simp only [hconforms, hplace, bind, Except.bind]
  exact husable

theorem isObject_of_check (h : check schema = .ok ()) : schema.isObject = true := by
  by_contra hobject
  rw [Bool.not_eq_true] at hobject
  rw [check, hobject] at h
  cases h

end Schema

namespace Json

/-- A document is read back from its own text. -/
theorem parse_ofString_text {d : Json} (h : Readable depthLimit d) :
    parse (Glyph.ofString d.text) = .ok d := by
  rw [parse, Glyph.ofString, text, String.toList_ofList]
  exact run_of_reads (reads_readValue h)

/-- A document as it is held, with the members of its objects in order by name, that nests at most 126
lists and objects and in which each floating-point number reads back from its own text. -/
structure Kept (d : Json) : Prop where
  sorted : d.normalize = d
  nesting : d.depth ≤ 126
  reals : ∀ x ∈ d.reals, ReadsBack x

theorem Kept.parseNormal {d : Json} (h : d.Kept) :
    Json.parseNormal (Glyph.ofString d.text) = .ok d := by
  rw [Json.parseNormal, parse_ofString_text ⟨Nat.le_succ_of_le h.nesting, h.reals⟩]
  exact congrArg Except.ok h.sorted

end Json

/-- A document in the metadata, as its text or as itself. -/
def Json.Carries (members : Json.Members) (name : String) (d : Json) : Prop :=
  lookup name members = some (.string d.text) ∨ lookup name members = some d

namespace Stream

variable {s : Stream} {schema : Json}

theorem schema_of_carries (h : Carries s.object.document "schema" schema) (hkept : schema.Kept)
    (hobject : schema.isObject = true) : s.schema = .ok schema := by
  rw [Stream.schema, Metadata.field?]
  rcases h with htext | hdocument
  · simp only [htext, hkept.parseNormal]
  · cases schema with
    | object members => rw [hdocument]
    | _ => cases hobject

theorem hold_create (h : Schema.check schema = .ok ()) (replies : Replies κ) :
    let answer := replies 0 (.api (.post s.name schema))
    (s.create schema).hold replies = ([⟨.api (.post s.name schema), answer⟩],
      ⟨(s.object.takeAnswer answer).1⟩, (s.object.takeAnswer answer).2) := by
  rw [create, h]
  dsimp only
  rw [Exchange.hold_map, Exchange.hold_api]

end Stream

namespace Http

/-- What is replied if each request that can be made reaches a server, which answers it by itself. -/
def Api.replies (api : Api) (server : Request → Response) : Replies κ := fun _ question =>
  match question with
  | .api call => (api.request call).bind fun request => (server request).read
  | .pushInsert _ _ => false
  | .subscribe _ _ | .unsubscribe _ => .error .connectionClosed

/-- The response tells of success, and its body is an object, in whatever way it is written, that is
read as these members. One of them, the schema, is what was sent. -/
structure Echoes (request : Request) (response : Response) (members : Json.Members) : Prop where
  success : isSuccess response.status = true
  body : ∃ document written, response.body = (Source.text document).toUTF8.data.toList ∧
    Stands depthLimit document.inside (.object written) ∧
    (Json.object written).normalize = .object members
  schema : ∃ sent, request.body = some sent ∧ Carries members "schema" sent

variable {api : Api} {server : Request → Response} {call : Call} {request : Request}
  {response : Response} {members : Json.Members}

theorem Echoes.read (h : Echoes request response members) : response.read = .ok (.object members) := by
  obtain ⟨document, written, hbody, hstands, hnormal⟩ := h.body
  obtain ⟨status, body⟩ := response
  obtain rfl : body = (Source.text document).toUTF8.data.toList := hbody
  rw [read_response hstands h.success, hnormal]

theorem Echoes.carries {schema : Json} (h : Echoes request response members)
    (hbody : request.body = some schema) : Carries members "schema" schema := by
  obtain ⟨sent, hsent, hcarries⟩ := h.schema
  obtain rfl := Option.some.inj (hsent.symm.trans hbody)
  exact hcarries

/-- What is no document is kept as a text. -/
theorem read_unparsed {status : Nat} {body : String} (hstatus : isSuccess status = true)
    (hblank : Text.isAllBlank body = false) (hparse : (parse (Glyph.ofString body)).toOption = none) :
    (Response.mk status body.toUTF8.data.toList).read = .ok (.string body) := by
  obtain ⟨failure, hfailure⟩ := error_of_toOption hparse
  have hnormal : parseNormal (Glyph.ofString body) = .error failure := by
    rw [parseNormal, hfailure]
    rfl
  simp only [Response.read, hstatus, if_true, Glyph.ofBytes_toUTF8, Glyph.lossy_ofString, bodyDocument,
    hblank, hnormal, Bool.false_eq_true, if_false]

theorem Api.replies_api (hrequest : api.request call = .ok request) (n : Nat) :
    api.replies (κ := κ) server n (.api call) = (server request).read := by
  rw [Api.replies, hrequest]
  rfl

end Http

/-- It is no operation on the metadata of the handle with this number, or it failed. -/
def Record.Quiet (index : Nat) (r : Record κ) : Prop :=
  r.operation.Uses index → ¬ r.operation.IsData → r.outcome ≠ .ok ()

namespace Shelf

variable {shelf shelf' later : Shelf} {act : Act κ} {acts : List (Act κ)} {r : Record κ}
  {history : List (Record κ)} {i : Nat} {h : Handle} {s : Stream} {schema : Json}

theorem Turn.given_of_quiet (hturn : Turn shelf r shelf') (h : r.Quiet i) : r.given i = none := by
  by_cases huses : r.operation.Uses i
  · by_cases hdata : r.operation.IsData
    · exact Record.given_of_isData hdata
    · have hfailed := mt (hturn.ok_iff huses hdata).2 (h huses hdata)
      simpa using hfailed
  · exact Record.given_of_not_uses huses

theorem step_of_quiet (hstep : shelf.step act = some (shelf', history))
    (hquiet : ∀ r ∈ history, r.Quiet i) (hi : shelf.handles[i]? = some h) :
    shelf'.handles[i]? = some h := by
  obtain ⟨r, rfl, -, hturn⟩ := turn_of_step hstep
  have hkept := hturn.getElem? hi
  rwa [hturn.given_of_quiet (hquiet r (List.mem_singleton.2 rfl)), Handle.told_none] at hkept

/-- A handle knows what it knew as long as no operation on its metadata has succeeded. -/
theorem run_of_quiet (hrun : runSteps step shelf acts = some (later, history))
    (hquiet : ∀ r ∈ history, r.Quiet i) (hi : shelf.handles[i]? = some h) :
    later.handles[i]? = some h := by
  refine runSteps_induction (P := fun _ reached records =>
    (∀ r ∈ records, r.Quiet i) → reached.handles[i]? = some h) (fun _ => hi) ?_ hrun hquiet
  intro acts reached records act next last _ ih hstep hquiet
  obtain ⟨hrecords, hlast⟩ := List.forall_mem_append.1 hquiet
  exact step_of_quiet hstep hlast (ih hrecords)

theorem step_create (hi : shelf.handles[i]? = some (.stream s)) (hschema : Schema.check schema = .ok ())
    (access : Access) (replies : Replies κ) :
    let answer := replies 0 (.api (.post s.name schema))
    shelf.step ⟨.onStream i (.create schema), access, replies⟩ =
      some (shelf.put i (.stream ⟨(s.object.takeAnswer answer).1⟩),
        [⟨.onStream i (.create schema), [⟨.api (.post s.name schema), answer⟩],
          (s.object.takeAnswer answer).2⟩]) := by
  simp only [step, hi, StreamUse.run, Stream.hold_create hschema]

/-- An answer that is no object changes nothing. -/
theorem step_create_refused {replies : Replies κ} {document : Json} (access : Access)
    (hi : shelf.handles[i]? = some (.stream s)) (hschema : Schema.check schema = .ok ())
    (hanswer : replies 0 (.api (.post s.name schema)) = .ok document)
    (hobject : document.isObject = false) :
    let act : Act κ := ⟨.onStream i (.create schema), access, replies⟩
    ∃ detail, shelf.step act = some (shelf, [⟨act.operation,
      [⟨.api (.post s.name schema), .ok document⟩], .error (.unexpectedResponse detail)⟩]) := by
  have htaken : ∃ detail, s.object.takeAnswer (.ok document) =
      (s.object, .error (.unexpectedResponse detail)) := by
    cases document with
    | object members => cases hobject
    | _ => exact ⟨_, rfl⟩
  obtain ⟨detail, htaken⟩ := htaken
  refine ⟨detail, ?_⟩
  rw [step_create hi hschema, hanswer, htaken]
  dsimp only
  rw [put_self hi]

/-- A schema that is sent and comes back in the answer, as its text or as itself, is what the stream is
created with and what `schema` gives from then on, until another operation on the metadata of the handle
succeeds. -/
theorem created_schema_reads_back {api : Http.Api} {server : Http.Request → Http.Response}
    {request : Http.Request} {members : Json.Members} (access : Access)
    (hi : shelf.handles[i]? = some (.stream s)) (hschema : Schema.check schema = .ok ())
    (hkept : schema.Kept) (hrequest : api.request (.post s.name schema) = .ok request)
    (hechoes : Http.Echoes request (server request) members) :
    let act : Act κ := ⟨.onStream i (.create schema), access, api.replies server⟩
    let told : Stream := ⟨⟨s.name, members⟩⟩
    shelf.step act = some (shelf.put i (.stream told),
      [⟨act.operation, [⟨.api (.post s.name schema), .ok (.object members)⟩], .ok ()⟩]) ∧
    ∀ (acts : List (Act κ)) (later : Shelf) (history : List (Record κ)),
      runSteps step (shelf.put i (.stream told)) acts = some (later, history) →
      (∀ r ∈ history, r.Quiet i) →
      later.handles[i]? = some (.stream told) ∧ told.schema = .ok schema := by
  intro act told
  have hanswer : api.replies (κ := κ) server 0 (.api (.post s.name schema)) = .ok (.object members) :=
    (Http.Api.replies_api hrequest 0).trans hechoes.read
  constructor
  · rw [step_create hi hschema, hanswer]
    rfl
  · intro acts later history hrun hquiet
    refine ⟨run_of_quiet hrun hquiet (getElem?_put_self hi _), ?_⟩
    obtain ⟨-, -, -, -, hbody⟩ := Http.Api.request_cases hrequest
    exact Stream.schema_of_carries (hechoes.carries hbody) hkept (Schema.isObject_of_check hschema)

def quoted (text : String) : Spelling := text.toList.filterMap fun c =>
  if h : c ≠ '"' ∧ c ≠ '\\' ∧ 0x20 ≤ c.toNat then some (.plain c h)
  else if c = '"' then some (.short .quote)
  else if c = '\\' then some (.short .backslash) else none

def member (name : String) (value : Source) : Padded Spelling × Padded Source :=
  (.bare (quoted name), .bare value)

def answering (detail schema : Source) : Padded Source :=
  .bare (.object [] [member "schema" schema, member "detail" detail])

def localApi : Http.Api := ⟨Http.site "http" 1 'a', none, false⟩

def server (document : Padded Source) : Http.Request → Http.Response := fun _ =>
  ⟨200, (Source.text document).toUTF8.data.toList⟩

def creating (schema : Json) (document : Padded Source) : Act Unit :=
  ⟨.onStream 0 (.create schema), ⟨false, false⟩, localApi.replies (server document)⟩

def uncreated : Shelf := ⟨[.stream (.named "u/d/s")]⟩

def createdWith (schema : Json) : Stream := ⟨⟨"u/d/s", [("detail", .null), ("schema", schema)]⟩⟩

/-- A line break, a fraction and a name, which are all written in other ways once more. -/
def bounded : Json :=
  .object [("description", .string "a\nb"), ("maximum", ofFloat 1.5), ("type", .string "number")]

def half : Figure := { one with fraction := some (⟨5, by decide⟩, []) }

def boundedSource : Source :=
  .object [.space] [member "type" (.string (quoted "number")),
    member "description" (.string (quoted "a" ++ .short .newline :: quoted "b")),
    member "maximum" (.number half)]

def idle : List (Act Unit) :=
  [actReplying (.onStream 0 (.setNickname "mine")) (.error .http),
    actReplying (.onStream 0 .length) (.ok .null)]

theorem bounded_kept : bounded.Kept where
  sorted := rfl
  nesting := by decide
  reals := by
    have hreals : bounded.reals = [1.5] := rfl
    rw [hreals]
    rintro x (_ | ⟨_, hx⟩)
    · exact readsBack_of_text (by decide +kernel : realLayout.text 1.5 = ['1', '.', '5']) fun _ => rfl
    · cases hx

theorem run_idle (s : Stream) : ∃ history,
    runSteps step ⟨[.stream s]⟩ idle = some (⟨[.stream s]⟩, history) ∧ ∀ r ∈ history, r.Quiet 0 := by
  refine ⟨_, rfl, ?_⟩
  rintro r (_ | ⟨_, _ | ⟨_, hr⟩⟩)
  · intro _ _ hok
    cases hok
  · intro _ hdata
    exact absurd rfl hdata
  · cases hr

theorem check_bounded : Schema.check bounded = .ok () :=
  Schema.check_of_unlinked rfl rfl (fun _ => ⟨_, rfl, rfl⟩) (by decide +kernel) rfl rfl

def boundedText : String :=
  "\x7b\"description\":\"a\\nb\",\"maximum\":1.5,\"type\":\"number\"\x7d"

theorem text_bounded : bounded.text = boundedText := by decide +kernel

theorem number?_half : half.number? = some (.real 1.5 (by decide +kernel)) := rfl

theorem value_boundedSource : boundedSource.value? none = some (.object [("type", .string "number"),
    ("description", .string "a\nb"), ("maximum", ofFloat 1.5)]) := by
  simp only [boundedSource, member, Padded.bare, Source.value?, Source.memberValues?, number?_half]
  rfl

theorem value_answering_text : (answering .null (.string (quoted boundedText))).inside.value? none =
    some (.object [("schema", .string boundedText), ("detail", .null)]) := rfl

theorem value_answering_document : (answering .null boundedSource).inside.value? none =
    some (.object [("schema", .object [("type", .string "number"), ("description", .string "a\nb"),
      ("maximum", ofFloat 1.5)]), ("detail", .null)]) := by
  simp only [answering, member, Padded.bare, Source.value?, Source.memberValues?]
  rw [value_boundedSource]
  rfl

theorem created_schema_reads_back_bounded :
    (∃ later history, runSteps step uncreated
        (creating bounded (answering .null (.string (quoted boundedText))) :: idle) =
          some (later, history) ∧
      later.handles = [.stream (createdWith (.string boundedText))] ∧
      (createdWith (.string boundedText)).schema = .ok bounded) ∧
    ∃ later history, runSteps step uncreated
        (creating bounded (answering .null boundedSource) :: idle) = some (later, history) ∧
      later.handles = [.stream (createdWith bounded)] ∧ (createdWith bounded).schema = .ok bounded := by
  obtain ⟨request, hrequest⟩ : ∃ request, localApi.request (.post "u/d/s" bounded) = .ok request := ⟨_, rfl⟩
  obtain ⟨-, -, -, -, hbody⟩ := Http.Api.request_cases hrequest
  have hreads {schema : Source} {value : Json} {written : Json.Members}
      (hstands : Stands depthLimit (answering .null schema).inside (.object written))
      (hnormal : (Json.object written).normalize = .object (createdWith value).object.document)
      (hcarries : Carries (createdWith value).object.document "schema" bounded) :
      ∃ later history, runSteps step uncreated (creating bounded (answering .null schema) :: idle) =
          some (later, history) ∧
        later.handles = [.stream (createdWith value)] ∧ (createdWith value).schema = .ok bounded := by
    have hechoes : Http.Echoes request (server (answering .null schema) request)
        (createdWith value).object.document := ⟨rfl, ⟨_, _, rfl, hstands, hnormal⟩, bounded, hbody, hcarries⟩
    obtain ⟨hstep, hlater⟩ := created_schema_reads_back (κ := Unit) (i := 0) (s := .named "u/d/s")
      ⟨false, false⟩ (rfl : uncreated.handles[0]? = _) check_bounded bounded_kept hrequest hechoes
    obtain ⟨history, hrun, hquiet⟩ := run_idle (createdWith value)
    exact ⟨_, _, runSteps_cons_iff.2 ⟨_, _, _, hstep, hrun, rfl⟩, rfl,
      (hlater idle _ history hrun hquiet).2⟩
  constructor
  · refine hreads ⟨value_answering_text, by decide⟩ rfl (Or.inl ?_)
    rw [text_bounded]
    rfl
  · exact hreads ⟨value_answering_document, by decide⟩ rfl (Or.inr rfl)

def nine : Fin 10 := ⟨9, by decide⟩

def immense : Source := .number { one with exponent := some ⟨false, none, nine, [nine, nine]⟩ }

def nested : Nat → Source
  | 0 => .array [] []
  | n + 1 => .array [] [.bare (nested n)]

def refused (detail : Source) : Padded Source := answering detail (.string (quoted "\x7b\x7d"))

theorem isAllBlank_answering (detail schema : Source) :
    Text.isAllBlank (Source.text (answering detail schema)) = false := by
  have hbrace : '\x7b' ∈ ((answering detail schema).map Source.chars).chars := by
    simp [answering, Padded.bare, Padded.map, Padded.chars, Source.chars]
  rw [Text.isAllBlank, Source.text, String.toList_ofList]
  exact List.all_eq_false.2 ⟨'\x7b', hbrace, by decide⟩

theorem check_empty : Schema.check (.object []) = .ok () :=
  Schema.check_of_unlinked rfl rfl (fun _ => ⟨_, rfl, rfl⟩) (by decide +kernel) rfl rfl

/-- The schema comes back, but the answer has a number that no document can hold, or half of a surrogate
pair, or more lists one inside another than are read, so all of it is taken for a text. -/
theorem created_unread :
    Schema.check (.object []) = .ok () ∧ (Json.object []).Kept ∧ (Json.object []).text = "\x7b\x7d" ∧
      Source.text (refused immense) = "\x7b\"schema\":\"\x7b\x7d\",\"detail\":1e999\x7d" ∧
      (∃ request, localApi.request (.post "u/d/s" (.object [])) = .ok request ∧
        request.body = some (.object []) ∧
        ∀ document, Http.isSuccess (server document request).status = true) ∧
      (∀ detail ∈ [immense, halved.inside, nested 126], ∃ said cause,
        uncreated.step (creating (.object []) (refused detail)) = some (uncreated,
          [⟨.onStream 0 (.create (.object [])), said, .error (.unexpectedResponse cause)⟩])) ∧
      ∀ schema, (Stream.named "u/d/s").schema ≠ .ok schema := by
  have hkept : (Json.object []).Kept := ⟨rfl, by decide, by simp [reals, realsMembers]⟩
  obtain ⟨request, hrequest⟩ : ∃ request, localApi.request (.post "u/d/s" (.object [])) = .ok request :=
    ⟨_, rfl⟩
  obtain ⟨-, -, -, -, hbody⟩ := Http.Api.request_cases hrequest
  have hrefused {detail : Source}
      (hparse : (parse (Glyph.ofChars ((refused detail).map Source.chars).chars)).toOption.isNone = true) :
      ∃ said cause, uncreated.step (creating (.object []) (refused detail)) = some (uncreated,
        [⟨.onStream 0 (.create (.object [])), said, .error (.unexpectedResponse cause)⟩]) := by
    rw [← ofString_text, Option.isNone_iff_eq_none] at hparse
    have hread : (server (refused detail) request).read = .ok (.string (Source.text (refused detail))) :=
      Http.read_unparsed rfl (isAllBlank_answering _ _) hparse
    obtain ⟨cause, hstep⟩ := step_create_refused (κ := Unit) ⟨false, false⟩
      (rfl : uncreated.handles[0]? = _) check_empty
      ((Http.Api.replies_api hrequest 0).trans hread) rfl
    exact ⟨_, cause, hstep⟩
  refine ⟨check_empty, hkept, by decide +kernel, by decide +kernel,
    ⟨request, hrequest, hbody, fun _ => rfl⟩, ?_, ?_⟩
  · intro detail hdetail
    simp only [List.mem_cons, List.not_mem_nil, or_false] at hdetail
    rcases hdetail with rfl | rfl | rfl
    · exact hrefused (by decide +kernel)
    · exact hrefused (by decide +kernel)
    · exact hrefused (by decide +kernel)
  · intro schema hschema
    cases hschema

end Shelf

end SeriesClient
