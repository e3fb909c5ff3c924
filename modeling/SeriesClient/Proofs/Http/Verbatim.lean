import SeriesClient.Proofs.Query.Wire

/-! Names that are addressed as they are written. A plain name has nothing in it that a reference could
take for anything but the name of a place one level down, so the URL of a stream with such a name is the
base with the name written behind it; and other names, other places. -/

namespace SeriesClient

open Url Http

variable {κ : Type}

def bareName (name : String) : List Char := name.toList.dropWhile (· == '/')

def isPlain (c : Char) : Bool := c.isAlphanum || c = '-' || c = '_' || c = '.'

def isPlainSegment (segment : List Char) : Bool :=
  !segment.isEmpty && segment.all isPlain && segment != ['.'] && segment != ['.', '.']

/-- A name of plain segments, none of them empty or dots for a place, behind any number of slashes. -/
def isPlainName (name : String) : Bool := ((bareName name).splitOn '/').all isPlainSegment

theorem isPlain_cases {c : Char} (h : isPlain c = true) : isOrdinary c = true ∧ c ≠ '/' ∨ c = '.' := by
  have hslash : c ≠ '/' := by
    rintro rfl
    cases h
  simp only [isPlain, Bool.or_eq_true, decide_eq_true_eq] at h
  rcases h with ((h | h) | h) | h
  · exact Or.inl ⟨by simp [isOrdinary, h], hslash⟩
  · exact Or.inl ⟨by simp [isOrdinary, h], hslash⟩
  · exact Or.inl ⟨by simp [isOrdinary, h], hslash⟩
  · exact Or.inr h

theorem isLiteral_of_isPlain {c : Char} (h : isPlain c = true) : isLiteral c = true := by
  rcases isPlain_cases h with ⟨h, -⟩ | rfl
  · refine (isLiteral_iff c).2 ⟨low_of_isOrdinary h, ne_of_isOrdinary rfl h, ?_, ne_of_isOrdinary rfl h⟩
    simp [endsPath, ne_of_isOrdinary (d := '?') rfl h, ne_of_isOrdinary (d := '#') rfl h]
  · rfl

theorem inPathSet_of_isPlain {c : Char} (h : isPlain c = true) : inPathSet c = false := by
  rcases isPlain_cases h with ⟨h, -⟩ | rfl
  · have hall : ∀ n < 128, isOrdinary (Char.ofNat n) = true → inPathSet (Char.ofNat n) = false := by
      decide
    have hc := hall c.toNat (toNat_of_isOrdinary h)
    rw [Char.ofNat_toNat] at hc
    exact hc h
  · rfl

/-- No case of a plain character is a percent sign, and none but the dot has a dot for its lower
case. -/
theorem toLower_of_isPlain {c : Char} (h : isPlain c = true) :
    c.toLower ≠ '%' ∧ (c.toLower = '.' → c = '.') := by
  rcases isPlain_cases h with ⟨h, -⟩ | rfl
  · obtain ⟨hdot, hpercent⟩ := toLower_of_isOrdinary h
    exact ⟨hpercent, fun hc => absurd hc hdot⟩
  · exact ⟨by decide, fun _ => rfl⟩

theorem percentEncode_eq_self {inSet : Char → Bool} {chars : List Char}
    (h : ∀ c ∈ chars, inSet c = false) : percentEncode inSet chars = chars := by
  have hchar : ∀ c ∈ chars, percentChar inSet c = [c] := fun c hc => by
    rw [percentChar, h c hc]
    rfl
  rw [percentEncode, List.flatMap_congr hchar, List.flatMap_singleton']

theorem plain_of_isPlainSegment {segment : List Char} (h : isPlainSegment segment = true) :
    segment ≠ [] ∧ (∀ c ∈ segment, isPlain c = true) ∧ segment ≠ ['.'] ∧ segment ≠ ['.', '.'] := by
  simpa [isPlainSegment, and_assoc] using h

theorem not_dots_of_isPlainSegment {segment : List Char} (h : isPlainSegment segment = true) :
    isDotDot segment = false ∧ isDot segment = false := by
  obtain ⟨-, hplain, hdot, hdots⟩ := plain_of_isPlainSegment h
  match segment with
  | [] => exact ⟨rfl, rfl⟩
  | [c] =>
    obtain ⟨hpercent, -⟩ := toLower_of_isPlain (hplain c List.mem_cons_self)
    simpa [isDotDot, isDot] using hdot
  | c :: d :: rest =>
    obtain ⟨hc, hcdot⟩ := toLower_of_isPlain (hplain c List.mem_cons_self)
    obtain ⟨hd, hddot⟩ :=
      toLower_of_isPlain (hplain d (List.mem_cons_of_mem _ List.mem_cons_self))
    refine ⟨?_, by simp [isDot, hc]⟩
    simp only [isDotDot, List.map_cons, Bool.or_eq_false_iff, beq_eq_false_iff_ne, ne_eq,
      List.cons.injEq, List.map_eq_nil_iff, hc, hd, false_and, and_false, not_false_iff, and_true]
    rintro ⟨hlow, hlow', rfl⟩
    exact hdots (by rw [hcdot hlow, hddot hlow'])

theorem walk_of_plain {start segments : List (List Char)}
    (h : ∀ segment ∈ segments, isPlainSegment segment = true) :
    walk false start segments = start ++ segments := by
  induction segments generalizing start with
  | nil => rw [walk, List.append_nil]
  | cons segment rest ih =>
    obtain ⟨hsegment, hrest⟩ := List.forall_mem_cons.1 h
    obtain ⟨hdots, hdot⟩ := not_dots_of_isPlainSegment hsegment
    have hencode : encodeSegment false start segment = segment :=
      percentEncode_eq_self fun c hc =>
        inPathSet_of_isPlain ((plain_of_isPlainSegment hsegment).2.1 c hc)
    by_cases hnil : rest = []
    · rw [hnil, walk_singleton, hdots, hdot, hencode]
      rfl
    · rw [walk_cons hnil, hdots, hdot, hencode, if_neg Bool.false_ne_true, if_neg Bool.false_ne_true,
        ih hrest, List.append_assoc, List.singleton_append]

theorem splitSegments_eq_splitOn {chars : List Char} (h : ∀ c ∈ chars, c ≠ '\\') :
    splitSegments true chars = chars.splitOn '/' := by
  induction chars with
  | nil => rfl
  | cons c chars ih =>
    obtain ⟨hc, hchars⟩ := List.forall_mem_cons.1 h
    rw [splitSegments, ih hchars, List.splitOn, List.splitOn, List.splitOnP_cons_eq_if_modifyHead]
    by_cases hslash : c = '/'
    · simp [isSlash, hslash]
    · obtain ⟨segment, segments, hsplit⟩ :=
        List.exists_cons_of_ne_nil (List.splitOnP_ne_nil (· == '/') chars)
      simp [isSlash, hslash, hc, hsplit]

theorem chars_splitOn (chars : List Char) : (Path.segments (chars.splitOn '/')).chars = '/' :: chars := by
  have hjoin : ∀ segments : List (List Char), segments ≠ [] →
      segments.flatMap ('/' :: ·) = '/' :: ['/'].intercalate segments := by
    intro segments hsegments
    induction segments with
    | nil => exact absurd rfl hsegments
    | cons segment rest ih =>
      by_cases hnil : rest = []
      · simp [hnil]
      · rw [List.flatMap_cons, ih hnil, List.intercalate_cons_of_ne_nil hnil]
        simp
  rw [Path.chars, hjoin _ (List.splitOn_ne_nil _ _), List.intercalate_splitOn]

section
variable {name : String}

theorem mem_bareName {c : Char} (h : isPlainName name = true) (hc : c ∈ bareName name) :
    isPlain c = true ∨ c = '/' := by
  have hmem : c ∈ (Path.segments ((bareName name).splitOn '/')).chars := by
    rw [chars_splitOn]
    exact List.mem_cons_of_mem _ hc
  obtain ⟨segment, hsegment, hmem⟩ := List.mem_flatMap.1 hmem
  rcases List.mem_cons.1 hmem with hslash | hmem
  · exact Or.inr hslash
  · exact Or.inl ((plain_of_isPlainSegment (List.all_eq_true.1 h segment hsegment)).2.1 c hmem)

theorem isLiteral_bareName (h : isPlainName name = true) : ∀ c ∈ bareName name, isLiteral c = true := by
  intro c hc
  rcases mem_bareName h hc with hplain | rfl
  · exact isLiteral_of_isPlain hplain
  · rfl

theorem exists_bareName (h : isPlainName name = true) :
    ∃ c rest, bareName name = c :: rest ∧ c ≠ '/' := by
  cases hbare : bareName name with
  | nil =>
    rw [isPlainName, hbare] at h
    cases h
  | cons c rest => exact ⟨c, rest, rfl, ne_slash_of_dropWhile hbare⟩

theorem bareName_data (h : isPlainName name = true) :
    bareName (name ++ "/data") = bareName name ++ "/data".toList := by
  obtain ⟨c, rest, hbare, -⟩ := exists_bareName h
  rw [bareName, String.toList_append, List.dropWhile_append, ← bareName, hbare]
  rfl

theorem isPlainName_data (h : isPlainName name = true) : isPlainName (name ++ "/data") = true := by
  have hsplit : (bareName (name ++ "/data")).splitOn '/' =
      (bareName name).splitOn '/' ++ ["data".toList] := by
    rw [bareName_data h, List.splitOn, show "/data".toList = '/' :: "data".toList from rfl,
      List.splitOnP_append_cons _ _ (by decide)]
    rfl
  rw [isPlainName, hsplit, List.all_append, Bool.and_eq_true]
  exact ⟨h, rfl⟩

end

namespace Http

/-- A base that says no more than where to go: no user is named in it, and it has neither a query nor a
fragment. -/
structure BareBase (base : Url) : Prop where
  http : IsHttp base.scheme
  userinfo : base.userinfo = none
  query : base.query = none
  fragment : base.fragment = none

theorem rootText_slash (url : String) : ∃ front, (rootText url).toList = front ++ ['/'] := by
  unfold rootText
  split_ifs with hslash
  · exact List.getLast?_eq_some_iff.1 hslash
  · exact ⟨url.toList, String.toList_append⟩

theorem rootText_append_slash {url : String} (h : url.toList.getLast? ≠ some '/') :
    rootText (url ++ "/") = rootText url := by
  have hslash : (url ++ "/").toList.getLast? = some '/' := by
    rw [String.toList_append]
    exact List.getLast?_concat
  rw [rootText, if_pos hslash, rootText, if_neg h]

/-- A URL with neither a query nor a fragment has nothing behind its path. -/
theorem tailPart_of_bare {url : Url} {chars : List Char}
    (hquery : (withTail url (tailPart chars)).query = none)
    (hfragment : (withTail url (tailPart chars)).fragment = none) : ∀ c ∈ chars, endsPath c = false := by
  have hnil : tailPart chars = [] := by
    have hhead := List.head?_dropWhile_not (!endsPath ·) chars
    rw [← tailPart] at hhead
    cases htail : tailPart chars with
    | nil => rfl
    | cons c rest =>
      rw [htail] at hquery hfragment hhead
      have hends : c = '?' ∨ c = '#' := by simpa [endsPath, or_iff_not_imp_left] using hhead
      rcases hends with rfl | rfl
      · simp [withTail, splitFragment] at hquery
      · simp [withTail, splitFragment] at hfragment
  intro c hc
  simpa using List.dropWhile_eq_nil_iff.1 hnil c hc

/-- A bare base that was read from a text with a slash at its end has a host, and its path goes on with
an empty segment. -/
theorem place_of_absolute {z : List Char} {base : Url} (h : absolute (z ++ ['/']) = .ok base)
    (hbare : BareBase base) :
    (∃ host, base.host = some host) ∧ ∃ place, base.path = .segments (place ++ [[]]) := by
  obtain ⟨a, front, hbase, -⟩ := behind_of_absolute h hbare.http
  have hplain : ∀ c ∈ front ++ ['/'], endsPath c = false :=
    tailPart_of_bare ((congrArg Url.query hbase).symm.trans hbare.query)
      ((congrArg Url.fragment hbase).symm.trans hbare.fragment)
  obtain ⟨place, hplace, -⟩ := pathBehind_slash hbare.http.not_file front
  refine ⟨⟨a.host, congrArg Url.host hbase⟩, place, ?_⟩
  rw [← hplace, ← pathPart_eq hplain]
  exact congrArg Url.path hbase

section
variable {config : ClientConfig} {api : Api} {name : String}

theorem place_of_ofConfig (hapi : Api.ofConfig config = .ok api) (hbare : BareBase api.base) :
    (∃ host, api.base.host = some host) ∧ ∃ place, api.base.path = .segments (place ++ [[]]) := by
  obtain ⟨front, hfront⟩ := rootText_slash config.url
  have hbase := parse_of_ofConfig hapi
  rw [parse_eq, hfront, clean_slash] at hbase
  exact place_of_absolute hbase hbare

/-- The segments of a text, below a place on the host of the base. -/
def below (base : Url) (place : List (List Char)) (chars : List Char) : Url :=
  { base with path := .segments (place ++ chars.splitOn '/') }

theorem below_of_bare {base : Url} (hbare : BareBase base) (place : List (List Char))
    (chars : List Char) : below base place chars = { base with
      path := .segments (place ++ chars.splitOn '/'), query := none, fragment := none } := by
  rw [below, hbare.query, hbare.fragment]

/-- A plain name leads to the place that it names below the base. -/
theorem urlOf_of_isPlainName {place : List (List Char)} (hbare : BareBase api.base)
    (hpath : api.base.path = .segments (place ++ [[]])) (h : isPlainName name = true) :
    api.urlOf name = .ok (below api.base place (bareName name)) := by
  obtain ⟨c, rest, hname, hslash⟩ := exists_bareName h
  have hliteral : ∀ d ∈ c :: rest, isLiteral d = true := hname ▸ isLiteral_bareName h
  have hsplit : splitSegments true (c :: rest) = (c :: rest).splitOn '/' :=
    splitSegments_eq_splitOn fun d hd => ((isLiteral_iff d).1 (hliteral d hd)).2.2.2
  have hplain : ∀ segment ∈ (c :: rest).splitOn '/', isPlainSegment segment = true :=
    hname ▸ List.all_eq_true.1 h
  have hjoin := join_literal hbare.http hpath hslash hliteral
  rw [hsplit, List.dropLast_concat, walk_of_plain hplain, ← hname] at hjoin
  rw [Api.urlOf, ← bareName, hjoin, below_of_bare hbare]

end

def queryText : Call → List Char
  | .get _ (parameter :: parameters) => '?' :: Form.encode (parameter :: parameters)
  | _ => []

/-- The call is a request to that place, made if the key can stand in a header. -/
structure Addressed (api : Api) (call : Call) (place : List Char) : Prop where
  sent : (∀ key ∈ api.apiKey, isHeaderValue (bearerHeader key) = true) →
    ∃ request, api.request call = .ok request
  place : ∀ request, api.request call = .ok request →
    request.url.locationChars = place ∧ request.url.chars = place ++ queryText call

theorem chars_target {joined : Url} (hquery : joined.query = none) (hfragment : joined.fragment = none)
    (call : Call) : (target joined call).chars = joined.locationChars ++ queryText call := by
  match call with
  | .get path [] => simp [target, addParameters, hquery, hfragment, queryText, Url.chars, locationChars,
      authorityChars, pathMark]
  | .get path (parameter :: parameters) =>
    simp [target, addParameters, hquery, hfragment, queryText, Url.chars, locationChars,
      authorityChars, pathMark]
  | .post path body | .put path body => simp [target, hquery, hfragment, queryText, Url.chars]

/-- Segments below a base that ends in an empty one are written behind it. -/
theorem locationChars_below {base : Url} {host : Host} {place : List (List Char)}
    (hbare : BareBase base) (hhost : base.host = some host)
    (hpath : base.path = .segments (place ++ [[]])) (chars : List Char) :
    (below base place chars).locationChars = base.chars ++ chars := by
  have hbelow : (Path.segments (place ++ chars.splitOn '/')).chars = base.path.chars ++ chars := by
    have hsplit := chars_splitOn chars
    simp only [Path.chars] at hsplit
    simp [hpath, Path.chars, hsplit]
  rw [locationChars, below, hbelow, Url.chars, locationChars, hbare.query, hbare.fragment]
  simp [authorityChars, pathMark, hhost]

/-- A call on a plain name goes to the base with the name written behind it. -/
theorem addressed_of_isPlainName {config : ClientConfig} {api : Api} {call : Call}
    (hapi : Api.ofConfig config = .ok api) (hbare : BareBase api.base)
    (h : isPlainName call.path = true) :
    Addressed api call (api.base.chars ++ bareName call.path) := by
  obtain ⟨⟨host, hhost⟩, place, hpath⟩ := place_of_ofConfig hapi hbare
  have hjoined := urlOf_of_isPlainName hbare hpath h
  have hplace := locationChars_below hbare hhost hpath (bareName call.path)
  refine ⟨fun hkey => request_of_usable ⟨hbare.http, hkey⟩ hjoined rfl, fun request hrequest => ?_⟩
  obtain ⟨joined, hurlOf, -, hurl, -⟩ := Api.request_cases hrequest
  obtain rfl := Except.ok.inj (hjoined.symm.trans hurlOf)
  obtain ⟨query, htarget⟩ := target_eq (below api.base place (bareName call.path)) call
  have huser : request.url = target (below api.base place (bareName call.path)) call := by
    rw [hurl, htarget, below, hbare.userinfo]
  constructor
  · rw [huser, htarget, ← hplace]
    rfl
  · have hquery : (below api.base place (bareName call.path)).query = none := hbare.query
    have hfragment : (below api.base place (bareName call.path)).fragment = none := hbare.fragment
    rw [huser, chars_target hquery hfragment, hplace]

theorem ofConfig_append_slash {config : ClientConfig} (h : config.url.toList.getLast? ≠ some '/') :
    Api.ofConfig { config with url := config.url ++ "/" } = Api.ofConfig config := by
  rw [Api.ofConfig, rootText_append_slash h]
  rfl

end Http

/-- All that is requested is at that path, whatever is replied. -/
def Exchange.At {α : Type} (path : String) (e : Exchange κ α) : Prop :=
  ∀ replies, ∀ call ∈ requested (e.hold replies).1, call.path = path

theorem Exchange.At.map {α β : Type} {path : String} {e : Exchange κ α} (h : e.At path) (f : α → β) :
    (e.map f).At path := by
  intro replies call hcall
  rw [Exchange.hold_map] at hcall
  exact h replies call hcall

theorem Exchange.at_api (call : Call) : (Exchange.api call : Exchange κ _).At call.path :=
  fun _ _ hcall => by rw [List.mem_singleton.1 hcall]

/-- Where nothing is said, or nothing but to the push connection, any path will do. -/
theorem Exchange.at_of_requested_nil {α : Type} {path : String} {e : Exchange κ α}
    (h : ∀ replies, requested (e.hold replies).1 = []) : e.At path := fun replies _ hcall => by
  rw [h replies] at hcall
  cases hcall

namespace Stream

theorem at_create (s : Stream) (schema : Json) : (s.create schema : Changing κ).At s.name := by
  unfold create
  split
  · exact Exchange.at_of_requested_nil fun _ => rfl
  · exact (Exchange.at_api _).map _

theorem at_insertMany (access : Access) (s : Stream) (points : List Datapoint) (restamp : Bool) :
    (s.insertMany access points restamp : Exchange κ _).At s.dataPath := by
  have hwrite : (s.insertOverHttp points restamp : Exchange κ _).At s.dataPath := by
    have hpath : (s.insertCall points restamp).path = s.dataPath := by
      cases restamp <;> rfl
    exact hpath ▸ (Exchange.at_api _).map _
  unfold insertMany
  split_ifs
  · intro replies call hcall
    simp only [Exchange.hold] at hcall
    cases hsent : (replies 0 (.pushInsert s.name points) : Bool) with
    | true =>
      simp only [hsent] at hcall
      cases hcall
    | false =>
      simp only [hsent] at hcall
      exact hwrite (fun n => replies (n + 1)) call hcall
  · exact hwrite

theorem at_query (s : Stream) (q : Query) : (s.query q : Exchange κ _).At s.dataPath :=
  (Exchange.at_api _).map _

theorem at_get (s : Stream) (index : Int64) : (s.get index : Exchange κ _).At s.dataPath := by
  unfold get
  split_ifs
  · exact Exchange.at_of_requested_nil fun _ => rfl
  · exact (s.at_query _).map _

theorem at_subscribe (access : Access) (s : Stream) (callback : κ) (downlink : Bool) (path : String) :
    (s.subscribe access callback downlink).At path := by
  unfold subscribe
  split_ifs <;> exact Exchange.at_of_requested_nil fun _ => rfl

theorem at_unsubscribe (access : Access) (s : Stream) (downlink : Bool) (path : String) :
    (s.unsubscribe access downlink : Exchange κ _).At path := by
  unfold unsubscribe
  split_ifs <;> exact Exchange.at_of_requested_nil fun _ => rfl

theorem at_queryBy (s : Stream) (settings : List Query.Builder.Setting) :
    (s.queryBy settings : Exchange κ _).At s.dataPath := by
  unfold queryBy
  split
  · exact Exchange.at_of_requested_nil fun _ => rfl
  · exact s.at_query _

end Stream

namespace Undertaking

def isMetadata : Undertaking κ → Bool
  | use u => u.isMetadata
  | queryBy _ => false

def path (u : Undertaking κ) (s : Stream) : String := if u.isMetadata then s.name else s.dataPath

theorem at_run (u : Undertaking κ) (access : Access) (s : Stream) :
    (u.run access s).At (u.path s) := by
  cases u with
  | use u =>
    cases u with
    | refresh | setNickname _ | setDownlink _ | setEphemeral _ =>
      exact ((Exchange.at_api _).map _).map _
    | create schema => exact s.at_create schema
    | length | timeToIndex _ => exact ((Exchange.at_api _).map _).map _
    | insertMany points restamp => exact (s.at_insertMany access points restamp).map _
    | insert value => exact (s.at_insertMany access _ true).map _
    | query _ | slice _ _ | sliceToEnd _ => exact (s.at_query _).map _
    | get index => exact (s.at_get index).map _
    | subscribe callback downlink => exact (s.at_subscribe access callback downlink _).map _
    | unsubscribe downlink => exact (s.at_unsubscribe access downlink _).map _
    | watch feed downlink => exact ((s.at_subscribe access feed downlink _).map _).map _
  | queryBy settings => exact (s.at_queryBy settings).map _

/-- What a stream with that name is addressed by: the name behind the base, and for its data the word
for them. -/
def address (u : Undertaking κ) (base : Url) (name : String) : List Char :=
  base.chars ++ bareName name ++ if u.isMetadata then [] else "/data".toList

variable {config : ClientConfig} {api : Api} {access : Access} {s : Stream} {replies : Replies κ}
  {call : Call} {u : Undertaking κ}

theorem addressed_of_run (hapi : Api.ofConfig config = .ok api) (hbare : BareBase api.base)
    (h : isPlainName s.name = true) (hcall : call ∈ requested ((u.run access s).hold replies).1) :
    Addressed api call (u.address api.base s.name) := by
  have hpath : call.path = u.path s := u.at_run access s replies call hcall
  have hplain : isPlainName call.path = true := by
    rw [hpath, path]
    split_ifs
    · exact h
    · exact isPlainName_data h
  have haddress : u.address api.base s.name = api.base.chars ++ bareName call.path := by
    rw [hpath, path, address]
    split_ifs
    · rw [List.append_nil]
    · rw [Stream.dataPath, bareName_data h, List.append_assoc]
  rw [haddress]
  exact addressed_of_isPlainName hapi hbare hplain

/-- Under a base that says no more than where to go, whatever is done with a stream with a plain name is
requested at the base as it was read, the name written behind it, and for its data `/data` behind that;
and behind all that come the parameters of the call and nothing else. A root with a slash at its end is
the same as without it. And what is done with two streams is requested at the same place, their metadata
or their data, only if they have the same name. -/
theorem plain_names_verbatim (hapi : Api.ofConfig config = .ok api) (hbare : BareBase api.base) :
    Url.parse (rootText config.url) = .ok api.base ∧
    (config.url.toList.getLast? ≠ some '/' →
      Api.ofConfig { config with url := config.url ++ "/" } = .ok api) ∧
    ∀ (u : Undertaking κ) access s replies, isPlainName s.name = true →
      ∀ call ∈ requested ((u.run access s).hold replies).1,
        Addressed api call (u.address api.base s.name) ∧
        ∀ (u' : Undertaking κ) access' s' replies', isPlainName s'.name = true →
          u'.isMetadata = u.isMetadata →
          ∀ call' ∈ requested ((u'.run access' s').hold replies').1, ∀ request request',
            api.request call = .ok request → api.request call' = .ok request' →
            request.url.locationChars = request'.url.locationChars →
            bareName s.name = bareName s'.name := by
  refine ⟨parse_of_ofConfig hapi, fun h => (ofConfig_append_slash h).trans hapi,
    fun u access s replies h call hcall => ?_⟩
  have haddressed := addressed_of_run hapi hbare h hcall
  refine ⟨haddressed, fun u' access' s' replies' h' hkind call' hcall' request request' hrequest
    hrequest' hsame => ?_⟩
  have haddressed' := addressed_of_run hapi hbare h' hcall'
  rw [(haddressed.place request hrequest).1, (haddressed'.place request' hrequest').1, address, address,
    hkind] at hsame
  exact List.append_cancel_left (List.append_cancel_right hsame)

/-- The length of a stream whose name opens with slashes and has dots in it. -/
theorem plain_names_verbatim_length : ∃ api call request, Api.ofConfig localRoot = .ok api ∧
    Api.ofConfig { localRoot with url := "http://localhost:8000/api/v1/" } = .ok api ∧
    requested ((run ⟨true, true⟩ (.named "//u/d/..s.1") (.use .length)).hold refusing).1 = [call] ∧
    api.request call = .ok request ∧
    request.url.text = "http://localhost:8000/api/v1/u/d/..s.1/data?q=length" := by
  have hapi : Api.ofConfig localRoot = .ok _ := rfl
  obtain ⟨-, hslash, hall⟩ := plain_names_verbatim hapi ⟨Or.inl rfl, rfl, rfl, rfl⟩
  have hcalls : requested ((run ⟨true, true⟩ (.named "//u/d/..s.1") (.use .length)).hold refusing).1 =
      [.get "//u/d/..s.1/data" [("q", "length")]] := rfl
  obtain ⟨⟨hsent, hplace⟩, -⟩ := hall (.use .length) ⟨true, true⟩ (.named "//u/d/..s.1") refusing
    (by decide +kernel) _ (hcalls ▸ List.mem_cons_self)
  obtain ⟨request, hrequest⟩ := hsent (by decide +kernel)
  refine ⟨_, _, request, hapi, hslash (by decide +kernel), hcalls, hrequest, ?_⟩
  rw [Url.text, (hplace request hrequest).2]
  decide +kernel

end Undertaking

end SeriesClient
