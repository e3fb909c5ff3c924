import SeriesClient.Proofs.Query.Parameters
import SeriesClient.Proofs.Http.Confined
import SeriesClient.Proofs.Http.Form
import SeriesClient.Proofs.Handle.Conduct

/-! Queries on the wire. A query on a stream is one request, whose query string is the form of the
parameters, since neither the root nor the name of the stream leaves anything else in it; so what is
read from the string are the parameters, and two queries share a string only if they are the same. -/

namespace SeriesClient

namespace Query

def wire (q : Query) : List Char := Url.Form.encode q.parameters

theorem parameters_ne_nil (q : Query) : q.parameters ≠ [] := by
  unfold parameters
  intro h
  exact rangeParameters_ne_nil q.range (List.append_eq_nil_iff.1 h).1

theorem decode_wire (q : Query) : Url.Form.decode q.wire = q.parameters :=
  Url.Form.decode_encode_pairs q.parameters

theorem wire_eq_iff (q q' : Query) : q.wire = q'.wire ↔
    q.transform = q'.transform ∧ q.range.canonical = q'.range.canonical := by
  rw [← parameters_eq_iff]
  constructor
  · intro h
    rw [← decode_wire q, ← decode_wire q', h]
  · intro h
    exact congrArg Url.Form.encode h

end Query

namespace Http

open Url

variable {κ : Type} {api : Api} {s : Stream}

theorem base64Digit_printable (n : ℕ) :
    0x20 ≤ (base64Digit n).toNat ∧ (base64Digit n).toNat ≠ 0x7F := by
  have hall : ∀ k < 64, 0x20 ≤ (base64Digit k).toNat ∧ (base64Digit k).toNat ≠ 0x7F := by decide
  by_cases hn : n < 64
  · exact hall n hn
  · have hlast : base64Digit n = '/' := by
      unfold base64Digit
      rw [if_neg (by omega), if_neg (by omega), if_neg (by omega), if_neg (by omega)]
    rw [hlast]
    decide

theorem base64_printable (bytes : List UInt8) :
    ∀ c ∈ base64 bytes, 0x20 ≤ c.toNat ∧ c.toNat ≠ 0x7F := by
  have hpad : 0x20 ≤ '='.toNat ∧ '='.toNat ≠ 0x7F := by decide
  have hdigit := base64Digit_printable
  induction bytes using base64.induct with
  | case1 => exact List.forall_mem_nil _
  | case2 a =>
    simp only [base64, List.forall_mem_cons]
    exact ⟨hdigit _, hdigit _, hpad, hpad, List.forall_mem_nil _⟩
  | case3 a b =>
    simp only [base64, List.forall_mem_cons]
    exact ⟨hdigit _, hdigit _, hdigit _, hpad, List.forall_mem_nil _⟩
  | case4 a b c rest ih =>
    simp only [base64, List.forall_mem_cons]
    exact ⟨hdigit _, hdigit _, hdigit _, hdigit _, ih⟩

/-- Whoever is named in a root can stand in a header. -/
theorem isHeaderValue_basic {url : Url} {header : String} (h : basicHeader? url = some header) :
    isHeaderValue header = true := by
  obtain ⟨bytes, rfl⟩ : ∃ bytes, header = "Basic " ++ String.ofList (base64 bytes) := by
    unfold basicHeader? at h
    simp only [Option.bind_eq_bind, Option.bind_eq_some_iff] at h
    obtain ⟨userinfo, -, name, -, h⟩ := h
    split_ifs at h
    exact ⟨_, (Option.some.inj h).symm⟩
  unfold isHeaderValue
  rw [String.toList_append, List.all_append, Bool.and_eq_true]
  refine ⟨by decide, List.all_eq_true.2 fun c hc => ?_⟩
  rw [String.toList_ofList] at hc
  obtain ⟨hlow, hdelete⟩ := base64_printable bytes c hc
  simp [hlow, hdelete]

/-- Requests can be made: the root is a place on the web and the key can stand in a header. -/
structure Api.Usable (api : Api) : Prop where
  http : IsHttp api.base.scheme
  key : ∀ key ∈ api.apiKey, isHeaderValue (bearerHeader key) = true

def isLiteral (c : Char) : Bool := 0x20 < c.toNat && c != ':' && c != '?' && c != '#' && c != '\\'

theorem isLiteral_iff (c : Char) : isLiteral c = true ↔
    0x20 < c.toNat ∧ c ≠ ':' ∧ endsPath c = false ∧ c ≠ '\\' := by
  simp [isLiteral, endsPath, and_assoc]

theorem isLiteral_dataPath (hname : ∀ c ∈ s.name.toList, isLiteral c = true) :
    ∀ c ∈ s.dataPath.toList, isLiteral c = true := by
  have hdata : ∀ c ∈ "/data".toList, isLiteral c = true := List.all_eq_true.1 rfl
  intro c hc
  unfold Stream.dataPath at hc
  rw [String.toList_append] at hc
  rcases List.mem_append.1 hc with hc | hc
  · exact hname c hc
  · exact hdata c hc

theorem join_literal {base : Url} {names : List (List Char)} {c : Char} {rest : List Char}
    (hhttp : IsHttp base.scheme) (hpath : base.path = .segments names) (hslash : c ≠ '/')
    (hall : ∀ d ∈ c :: rest, isLiteral d = true) :
    base.join (String.ofList (c :: rest)) = .ok { base with
      path := .segments (walk false names.dropLast (splitSegments true (c :: rest)))
      query := none
      fragment := none } := by
  have hliteral : ∀ d ∈ c :: rest, 0x20 < d.toNat ∧ d ≠ ':' ∧ endsPath d = false ∧ d ≠ '\\' :=
    fun d hd => (isLiteral_iff d).1 (hall d hd)
  have hends : ∀ d ∈ c :: rest, endsPath d = false := fun d hd => (hliteral d hd).2.2.1
  have hclean : clean (c :: rest) = c :: rest := clean_eq_self fun d hd => (hliteral d hd).1
  have hscheme : splitScheme? (c :: rest) = none :=
    splitScheme?_of_no_colon fun d hd => (hliteral d hd).2.1
  have hname : isEitherSlash c = false := by
    simp [isEitherSlash, hslash, (hliteral c List.mem_cons_self).2.2.2]
  rw [join_eq hhttp.not_file hpath (by rwa [String.toList_ofList, hclean]), String.toList_ofList, hclean,
    relative_of_name hname (hends c List.mem_cons_self), tailPart_eq hends, pathPart_eq hends,
    pathFrom_eq hhttp.not_file, hhttp.special, segmentsOf, hpath]
  rfl

/-- Nothing is left of the query of a root. -/
theorem urlOf_dataPath {config : ClientConfig} (hapi : Api.ofConfig config = .ok api)
    (hhttp : IsHttp api.base.scheme) (hname : ∀ c ∈ s.name.toList, isLiteral c = true) :
    ∃ url, api.urlOf s.dataPath = .ok url ∧ url.scheme = api.base.scheme ∧ url.query = none := by
  obtain ⟨names, hpath⟩ : ∃ names, api.base.path = .segments names :=
    segments_of_absolute ((parse_eq _).symm.trans (parse_of_ofConfig hapi)) hhttp
  obtain ⟨c, rest, hchars⟩ : ∃ c rest, s.dataPath.toList.dropWhile (· == '/') = c :: rest := by
    refine List.exists_cons_of_ne_nil fun hnil => ?_
    rw [Stream.dataPath, String.toList_append] at hnil
    cases List.dropWhile_eq_nil_iff.1 hnil 'd' (List.mem_append_right _ (by decide))
  have hall : ∀ d ∈ c :: rest, isLiteral d = true := fun d hd =>
    isLiteral_dataPath hname d (List.dropWhile_subset _ (hchars ▸ hd))
  unfold Api.urlOf
  rw [hchars, join_literal hhttp hpath (ne_slash_of_dropWhile hchars) hall]
  exact ⟨_, rfl, rfl, rfl⟩

theorem request_of_usable {call : Call} {joined : Url} (husable : api.Usable)
    (hjoined : api.urlOf call.path = .ok joined) (hscheme : joined.scheme = api.base.scheme) :
    ∃ request, api.request call = .ok request := by
  have hheaders : ((basicHeader? (target joined call)).toList ++
      (api.apiKey.map bearerHeader).toList).all isHeaderValue = true := by
    rw [List.all_append, Bool.and_eq_true, List.all_eq_true, List.all_eq_true]
    constructor
    · intro header hheader
      exact isHeaderValue_basic (Option.mem_toList.1 hheader)
    · intro header hheader
      obtain ⟨key, hkey, rfl⟩ := Option.map_eq_some_iff.1 (Option.mem_toList.1 hheader)
      exact husable.key key hkey
  have hweb : String.ofList (target joined call).scheme = "http" ∨
      String.ofList (target joined call).scheme = "https" := by
    obtain ⟨query, htarget⟩ := target_eq joined call
    rw [htarget, hscheme]
    exact husable.http.imp (fun hhttp => by rw [hhttp]; rfl) fun hhttp => by rw [hhttp]; rfl
  cases call <;>
  · simp only [Call.path] at hjoined
    simp only [target] at hheaders hweb
    simp only [Api.request, hjoined, bind, Except.bind, reduceCtorEq, if_true, if_false, hheaders]
    rw [if_neg (by simpa using or_iff_not_imp_left.1 hweb)]
    exact ⟨_, rfl⟩

theorem request_get {path : String} {parameters : Parameters} {joined : Url} (husable : api.Usable)
    (hjoined : api.urlOf path = .ok joined) (hscheme : joined.scheme = api.base.scheme)
    (hquery : joined.query = none) (hparameters : parameters ≠ []) :
    ∃ request, api.request (.get path parameters) = .ok request ∧
      request.url.query = some (Form.encode parameters) := by
  have hpath : api.urlOf (Call.get path parameters).path = .ok joined := hjoined
  obtain ⟨request, hrequest⟩ := request_of_usable husable hpath hscheme
  obtain ⟨joined', hjoined', -, hurl, -⟩ := Api.request_cases hrequest
  obtain rfl := Except.ok.inj (hjoined.symm.trans hjoined')
  refine ⟨request, hrequest, ?_⟩
  rw [hurl, target, addParameters, hquery]
  simp [hparameters]

def Api.made (api : Api) (said : List (Exchanged κ)) : Except StreamError (List Request) :=
  (requested said).mapM api.request

/-- A query on a stream is one request with that query string, whatever is replied. -/
def AsksWith (api : Api) (s : Stream) (q : Query) (wire : List Char) : Prop :=
  ∀ (κ : Type) (replies : Replies κ), ∃ request,
    api.made ((s.query q).hold replies).1 = .ok [request] ∧ request.url.query = some wire

theorem requested_query (s : Stream) (q : Query) (replies : Replies κ) :
    requested ((s.query q).hold replies).1 = [.get s.dataPath q.parameters] := by
  unfold Stream.query
  rw [Exchange.hold_map, Exchange.hold_api]
  rfl

theorem asksWith_wire {config : ClientConfig} (hapi : Api.ofConfig config = .ok api)
    (husable : api.Usable) (hname : ∀ c ∈ s.name.toList, isLiteral c = true) (q : Query) :
    AsksWith api s q q.wire := by
  intro κ replies
  obtain ⟨joined, hjoined, hscheme, hquery⟩ := urlOf_dataPath hapi husable.http hname
  obtain ⟨request, hrequest, hwire⟩ :=
    request_get husable hjoined hscheme hquery q.parameters_ne_nil
  refine ⟨request, ?_, hwire⟩
  unfold Api.made
  rw [requested_query, List.mapM_cons, List.mapM_nil, hrequest]
  rfl

/-- A query on a stream is one request, whose query string reads as the parameters of the query: those
of the range and after them the transform, whatever its text. Two queries have the same string if and
only if they have the same transform and the same range, where the ways to ask for a whole stream are
one and so are all NaNs, but not the two zeros. -/
theorem wire_determines_query {config : ClientConfig} {api : Api} {s : Stream}
    (hapi : Api.ofConfig config = .ok api) (husable : api.Usable)
    (hname : ∀ c ∈ s.name.toList, isLiteral c = true) (q : Query) :
    AsksWith api s q q.wire ∧ Form.decode q.wire = q.parameters ∧
    (∀ text, Form.decode (q.withTransform text).wire =
      Query.rangeParameters q.range ++ [("transform", text)]) ∧
    ∀ q' : Query, q.wire = q'.wire ↔
      q.transform = q'.transform ∧ q.range.canonical = q'.range.canonical :=
  ⟨asksWith_wire hapi husable hname q, q.decode_wire, fun text => (q.withTransform text).decode_wire,
    q.wire_eq_iff⟩

/-- A transform that looks like more parameters is one parameter. -/
theorem wire_determines_query_limited : ∃ api,
    Api.ofConfig { url := "http://[::1]/a" } = .ok api ∧
    AsksWith api (.named "u/d/s") (Query.all.withTransform "a&limit=1")
      "i1=0&transform=a%26limit%3D1".toList ∧
    Form.decode "i1=0&transform=a%26limit%3D1".toList = [("i1", "0"), ("transform", "a&limit=1")] := by
  have hwire : (Query.all.withTransform "a&limit=1").wire = "i1=0&transform=a%26limit%3D1".toList := by
    decide +kernel
  obtain ⟨hasks, hdecode, -⟩ := wire_determines_query (s := .named "u/d/s") hosts_a.base
    ⟨Or.inl rfl, by simp⟩ (List.all_eq_true.1 rfl) (Query.all.withTransform "a&limit=1")
  rw [hwire] at hasks hdecode
  exact ⟨_, hosts_a.base, hasks, hdecode⟩

end Http
end SeriesClient
