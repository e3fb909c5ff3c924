import SeriesClient.Proofs.Http.Reference
import SeriesClient.Http.Api
import Mathlib.Data.List.TakeWhile

/-! The root of the API with a slash at its end, which is what paths are relative to. -/

namespace SeriesClient.Url

def IsHttp (scheme : List Char) : Prop := scheme = "http".toList ∨ scheme = "https".toList

variable {scheme chars z : List Char}

theorem IsHttp.special (h : IsHttp scheme) : isSpecial scheme = true := by
  rcases h with rfl | rfl <;> rfl

theorem IsHttp.not_file (h : IsHttp scheme) : isFile scheme = false := by
  rcases h with rfl | rfl <;> rfl

theorem scheme_of_afterSlashes {url : Url} (h : afterSlashes scheme chars = .ok url) :
    url.scheme = scheme := by
  simp only [afterSlashes, bind, Except.bind] at h
  split at h
  · cases h
  · cases h
    rfl

theorem scheme_of_afterFileSlashes {url : Url} (h : afterFileSlashes chars = .ok url) :
    url.scheme = "file".toList := by
  simp only [afterFileSlashes, bind, Except.bind] at h
  split at h
  · cases h
    rfl
  · split at h
    · cases h
    · cases h
      rfl

theorem scheme_keepPath (base : Url) (chars : List Char) : (keepPath base chars).scheme = base.scheme := by
  unfold keepPath
  split <;> rfl

theorem scheme_of_relativeFile {base : Option Url} {url : Url}
    (hbase : ∀ b ∈ base, b.scheme = "file".toList) (h : relativeFile base chars = .ok url) :
    url.scheme = "file".toList := by
  have hunder : (base.getD emptyFile).scheme = "file".toList := by
    cases base with
    | none => rfl
    | some base => exact hbase base rfl
  unfold relativeFile at h
  dsimp only at h
  split at h
  · exact scheme_of_afterFileSlashes h
  · exact scheme_of_afterFileSlashes h
  · exact scheme_of_afterFileSlashes h
  · exact scheme_of_afterFileSlashes h
  · cases base with
    | none => split_ifs at h <;> (cases h; rfl)
    | some base =>
      split_ifs at h
      · cases h
        rfl
      · cases h
        exact hunder
      · cases h
        rfl
      · cases h
        exact (scheme_keepPath _ _).trans hunder
      · cases h
        rfl
      · cases h
        exact hunder
  · cases base with
    | none =>
      cases h
      rfl
    | some base =>
      cases h
      exact hunder

theorem scheme_of_relative {base url : Url} (h : relative base chars = .ok url) :
    url.scheme = base.scheme := by
  unfold relative at h
  split at h
  · cases h
    rfl
  · split_ifs at h
    · cases h
      exact scheme_keepPath _ _
    · split at h <;> exact scheme_of_afterSlashes h
    · cases h
      rfl
    · cases h
      rfl

/-- A text without a scheme of its own has that of the base. -/
theorem scheme_of_join {base url : Url} {text : String} (hown : splitScheme? (clean text.toList) = none)
    (h : base.join text = .ok url) : url.scheme = base.scheme := by
  unfold join parseWith at h
  dsimp only at h
  rw [hown] at h
  dsimp only at h
  split at h
  · cases h
    exact scheme_keepPath _ _
  · cases h
  · split_ifs at h with hfile
    · have hscheme : base.scheme = "file".toList := beq_iff_eq.1 hfile
      rw [scheme_of_relativeFile (by simp [hscheme]) h, hscheme]
    · exact scheme_of_relative h

theorem scheme_of_withScheme {base : Option Url} {url : Url}
    (hbase : base.filter (·.scheme == scheme) = none) (h : withScheme base scheme chars = .ok url) :
    url.scheme = scheme := by
  simp only [withScheme, hbase] at h
  split_ifs at h with hfile hspecial
  · rw [scheme_of_relativeFile (by simp) h]
    exact (beq_iff_eq.1 hfile).symm
  · exact scheme_of_afterSlashes h
  · split at h
    · exact scheme_of_afterSlashes h
    · cases h
      rfl
    · cases h
      rfl

theorem takeWhile_slash {p : Char → Bool} (hp : p '/' = false) :
    (z ++ ['/']).takeWhile p = z.takeWhile p := by
  induction z with
  | nil => simp [hp]
  | cons c z ih =>
    rw [List.cons_append, List.takeWhile_cons, List.takeWhile_cons, ih]

theorem dropWhile_slash {p : Char → Bool} (hp : p '/' = false) :
    (z ++ ['/']).dropWhile p = z.dropWhile p ++ ['/'] := by
  induction z with
  | nil => simp [hp]
  | cons c z ih =>
    rw [List.cons_append, List.dropWhile_cons, List.dropWhile_cons, ih]
    split_ifs <;> rfl

def cleanFront (chars : List Char) : List Char :=
  (chars.dropWhile fun c => decide (c.toNat ≤ 0x20)).filter
    fun c => c != '\t' && c != '\n' && c != '\r'

theorem clean_eq (h : ∀ c ∈ chars.getLast?, 0x20 < c.toNat) : clean chars = cleanFront chars := by
  have hinner : ∀ c ∈ (chars.dropWhile fun c => decide (c.toNat ≤ 0x20)).reverse.head?,
      0x20 < c.toNat := by
    intro c hc
    rw [List.head?_reverse] at hc
    obtain ⟨front, hfront⟩ := List.dropWhile_suffix (l := chars) fun c => decide (c.toNat ≤ 0x20)
    refine h c ?_
    rw [← hfront, List.getLast?_append, Option.mem_def.1 hc]
    rfl
  have hkeep : ∀ l : List Char, (∀ c ∈ l.head?, 0x20 < c.toNat) →
      l.dropWhile (fun c => decide (c.toNat ≤ 0x20)) = l := by
    intro l hl
    cases l with
    | nil => rfl
    | cons c l =>
      have hc := hl c rfl
      rw [List.dropWhile_cons, if_neg (by simpa using hc)]
  rw [clean, cleanFront]
  dsimp only
  rw [hkeep _ hinner, List.reverse_reverse]

theorem clean_eq_self (h : ∀ c ∈ chars, 0x20 < c.toNat) : clean chars = chars := by
  have hfront : chars.dropWhile (fun c => decide (c.toNat ≤ 0x20)) = chars := by
    cases chars with
    | nil => rfl
    | cons c chars =>
      have hc := h c List.mem_cons_self
      rw [List.dropWhile_cons, if_neg (by simpa using hc)]
  rw [clean_eq fun c hc => h c (List.mem_of_getLast? hc), cleanFront, hfront]
  refine List.filter_eq_self.2 fun c hc => ?_
  have hne : ∀ d : Char, d.toNat ≤ 0x20 → c ≠ d := by
    rintro d hd rfl
    exact absurd hd (Nat.not_le.2 (h c hc))
  simp only [Bool.and_eq_true, bne_iff_ne]
  exact ⟨⟨hne _ (by decide), hne _ (by decide)⟩, hne _ (by decide)⟩

theorem cleanFront_slash : cleanFront (chars ++ ['/']) = cleanFront chars ++ ['/'] := by
  rw [cleanFront, dropWhile_slash (by decide), List.filter_append]
  rfl

theorem mem_of_cleanFront {c : Char} (h : c ∈ cleanFront chars) : c ∈ chars :=
  List.dropWhile_subset _ (List.mem_filter.1 h).1

theorem clean_slash : clean (chars ++ ['/']) = cleanFront chars ++ ['/'] := by
  rw [clean_eq (by simp), cleanFront_slash]

theorem splitScheme?_slash {rest : List Char}
    (h : splitScheme? (z ++ ['/']) = some (scheme, rest)) :
    ∃ r, rest = r ++ ['/'] ∧ splitScheme? z = some (scheme, r) := by
  have hp : isSchemeChar '/' = false := rfl
  unfold splitScheme? at h ⊢
  rw [dropWhile_slash hp, takeWhile_slash hp] at h
  match z with
  | [] => simp [isLetter] at h
  | c :: z =>
    rw [List.cons_append, List.head?_cons] at h
    rw [List.head?_cons]
    split_ifs at h ⊢
    generalize (c :: z).dropWhile isSchemeChar = after at h ⊢
    match after with
    | [] => simp at h
    | d :: after =>
      rw [List.cons_append] at h
      split at h
      · next hd =>
        obtain ⟨rfl, rfl⟩ := List.cons.inj hd
        cases h
        exact ⟨after, rfl, rfl⟩
      · cases h

theorem mem_of_mem_splitPort {inside : Bool} {c : Char} (h : c ∈ ((splitPort inside chars).2.getD [])) :
    c ∈ chars := by
  induction chars generalizing inside with
  | nil => cases h
  | cons d chars ih =>
    rw [splitPort] at h
    split_ifs at h
    · exact List.mem_cons_of_mem _ h
    · exact List.mem_cons_of_mem _ (ih h)
    · exact List.mem_cons_of_mem _ (ih h)
    · exact List.mem_cons_of_mem _ (ih h)

theorem mem_of_splitLast? {c d : Char} {front back : List Char}
    (h : splitLast? d chars = some (front, back)) (hc : c ∈ back) : c ∈ chars := by
  simp only [splitLast?] at h
  split at h
  · cases h
  · cases h
    exact List.mem_reverse.1 (List.takeWhile_subset _ (List.mem_reverse.1 hc))

theorem mem_of_parseHostPort {userinfo : Option Userinfo} {a : Authority} {left : List Char} {c : Char}
    (h : parseHostPort scheme userinfo chars = .ok (a, left)) (hc : c ∈ left) : c ∈ chars := by
  unfold parseHostPort at h
  dsimp only at h
  generalize (if isSpecial scheme then Host.parse _ else Host.parseOpaque _) = host at h
  split at h
  · cases h
  cases host with
  | error fault => cases h
  | ok host =>
    dsimp only at h
    split at h
    · cases h
    split at h
    · cases h
    split at h
    · cases h
    cases h
    exact mem_of_mem_splitPort (List.mem_of_mem_drop hc)

theorem mem_of_parseAuthority {bare : Bool} {a : Authority} {left : List Char} {c : Char}
    (h : parseAuthority scheme bare chars = .ok (a, left)) (hc : c ∈ left) : c ∈ chars := by
  unfold parseAuthority at h
  split at h
  · exact mem_of_parseHostPort h hc
  · next hsplit =>
    split_ifs at h
    exact mem_of_splitLast? hsplit (mem_of_parseHostPort h hc)

theorem parseHostPort_nil (h : isSpecial scheme = true) (userinfo : Option Userinfo) :
    parseHostPort scheme userinfo [] = .error .emptyHost := by
  simp [parseHostPort, splitPort, h]

/-- Where a host is needed, it does not matter whether anything follows the authority. -/
theorem parseAuthority_bare (h : isSpecial scheme = true) (bare bare' : Bool) :
    parseAuthority scheme bare chars = parseAuthority scheme bare' chars := by
  unfold parseAuthority
  split
  · rfl
  · next credentials hostPort _ =>
    by_cases hempty : hostPort = []
    · subst hempty
      simp only [parseHostPort_nil h, ite_self]
    · simp [hempty]

theorem pathFrom_eq (hfile : isFile scheme = false) (start : List (List Char)) :
    pathFrom scheme start chars =
      .segments (walk false start (splitSegments (isSpecial scheme) chars)) := by
  simp [pathFrom, hfile]

theorem pathFrom_slash (hfile : isFile scheme = false) (chars : List Char) :
    ∃ place, pathFrom scheme [] (chars ++ ['/']) = .segments (place ++ [[]]) ∧
      (pathFrom scheme [] chars = .segments place ∨
        pathFrom scheme [] chars = .segments (place ++ [[]])) := by
  obtain ⟨place, hslash, hplace⟩ :=
    walk_slash false (splitSegments_ne_nil (isSpecial scheme) chars) []
  refine ⟨place, ?_, ?_⟩
  · rw [pathFrom_eq hfile, splitSegments_slash, hslash]
  · rw [pathFrom_eq hfile]
    exact hplace.imp (congrArg _) (congrArg _)

theorem pathPart_eq (h : ∀ c ∈ chars, endsPath c = false) : pathPart chars = chars :=
  List.takeWhile_eq_self_iff.2 fun c hc => by rw [h c hc]; rfl

theorem tailPart_eq (h : ∀ c ∈ chars, endsPath c = false) : tailPart chars = [] :=
  List.dropWhile_eq_nil_iff.2 fun c hc => by rw [h c hc]; rfl

/-- A URL and the place that it is with a slash at its end: the same but for the path, which goes on
with an empty segment unless there is one already. -/
structure Slashed (u base : Url) : Prop where
  same : base = { u with path := base.path }
  path : ∃ place, base.path = .segments (place ++ [[]]) ∧
    (u.path = .segments place ∨ u.path = .segments (place ++ [[]]))

/-- What comes after the host of a URL that has to have one. -/
def pathBehind (scheme chars : List Char) : Path :=
  if chars.head?.any (isSlash true) then pathFrom scheme [] (chars.drop 1)
  else pathFrom scheme [] chars

def behind (scheme : List Char) (a : Authority) (chars : List Char) : Url :=
  withTail ⟨scheme, a.userinfo, some a.host, a.port, pathBehind scheme (pathPart chars), none, none⟩
    (tailPart chars)

theorem afterSlashes_eq (hspecial : isSpecial scheme = true) (chars : List Char) :
    afterSlashes scheme chars =
      (parseAuthority scheme true (chars.takeWhile (!endsAuthority true ·))).map fun p =>
        behind scheme p.1 (p.2 ++ chars.dropWhile (!endsAuthority true ·)) := by
  simp only [afterSlashes, hspecial]
  rw [parseAuthority_bare hspecial _ true]
  cases parseAuthority scheme true (chars.takeWhile (!endsAuthority true ·)) with
  | error fault => rfl
  | ok p =>
    simp [bind, Except.bind, Except.map, pure, Except.pure, behind, pathBehind]

theorem pathBehind_slash (hfile : isFile scheme = false) (chars : List Char) :
    ∃ place, pathBehind scheme (chars ++ ['/']) = .segments (place ++ [[]]) ∧
      (pathBehind scheme chars = .segments place ∨
        pathBehind scheme chars = .segments (place ++ [[]])) := by
  match chars with
  | [] =>
    have hpath : pathBehind scheme ['/'] = .segments ([] ++ [[]]) := by
      simp [pathBehind, isSlash, pathFrom_eq hfile, splitSegments, walk_empty]
    have hempty : pathBehind scheme [] = .segments ([] ++ [[]]) := by
      simp [pathBehind, pathFrom_eq hfile, splitSegments, walk_empty]
    exact ⟨[], hpath, Or.inr hempty⟩
  | c :: chars =>
    simp only [pathBehind, List.cons_append, List.head?_cons, List.drop_succ_cons, List.drop_zero]
    split_ifs
    · exact pathFrom_slash hfile chars
    · exact pathFrom_slash hfile (c :: chars)

theorem behind_slash (hfile : isFile scheme = false) (a : Authority)
    (h : ∀ c ∈ chars, endsPath c = false) :
    Slashed (behind scheme a chars) (behind scheme a (chars ++ ['/'])) := by
  have hslash : ∀ c ∈ chars ++ ['/'], endsPath c = false := by
    intro c hc
    rcases List.mem_append.1 hc with hc | hc
    · exact h c hc
    · rw [List.mem_singleton.1 hc]
      rfl
  rw [behind, behind, pathPart_eq h, pathPart_eq hslash, tailPart_eq h, tailPart_eq hslash]
  exact ⟨rfl, pathBehind_slash hfile chars⟩

/-- With a slash at the end of the text there is one behind what stands behind the host. -/
theorem afterSlashes_slash {base : Url} (hspecial : isSpecial scheme = true)
    (h : afterSlashes scheme (z ++ ['/']) = .ok base) :
    ∃ a front, base = behind scheme a (front ++ ['/']) ∧
      afterSlashes scheme z = .ok (behind scheme a front) ∧ ∀ c ∈ front, c ∈ z := by
  have hends : (fun c => !endsAuthority true c) '/' = false := rfl
  rw [afterSlashes_eq hspecial] at h ⊢
  rw [takeWhile_slash hends, dropWhile_slash hends] at h
  cases hread : parseAuthority scheme true (z.takeWhile (!endsAuthority true ·)) with
  | error fault => rw [hread] at h; cases h
  | ok read =>
    obtain ⟨a, left⟩ := read
    rw [hread] at h
    cases h
    refine ⟨a, left ++ z.dropWhile (!endsAuthority true ·), by rw [List.append_assoc], rfl, ?_⟩
    intro c hc
    rcases List.mem_append.1 hc with hc | hc
    · exact List.takeWhile_subset _ (mem_of_parseAuthority hread hc)
    · exact List.dropWhile_subset _ hc

theorem afterSlashes_nil (hspecial : isSpecial scheme = true) :
    afterSlashes scheme [] = .error .emptyHost := by
  have hread : parseAuthority scheme true [] = .error .emptyHost := parseHostPort_nil hspecial none
  rw [afterSlashes_eq hspecial, List.takeWhile_nil, hread]
  rfl

def absolute (chars : List Char) : Except Fault Url :=
  match splitScheme? chars with
  | some (scheme, rest) => withScheme none scheme rest
  | none => .error .relativeWithoutBase

theorem parse_eq (text : String) : parse text = absolute (clean text.toList) := by
  cases h : splitScheme? (clean text.toList) <;> simp only [parse, parseWith, absolute, h]

theorem mem_of_splitScheme? {rest : List Char} {c : Char}
    (h : splitScheme? chars = some (scheme, rest)) (hc : c ∈ rest) : c ∈ chars := by
  unfold splitScheme? at h
  split_ifs at h
  split at h
  · next hsplit =>
    cases h
    exact List.dropWhile_subset isSchemeChar (hsplit ▸ List.mem_cons_of_mem _ hc)
  · cases h

theorem segments_of_afterSlashes {url : Url} (h : afterSlashes scheme chars = .ok url) :
    ∃ names, url.path = .segments names := by
  simp only [afterSlashes, bind, Except.bind] at h
  split at h
  · cases h
  · cases h
    unfold withTail
    dsimp only
    split_ifs
    · exact ⟨_, rfl⟩
    · exact ⟨_, rfl⟩
    · exact ⟨_, rfl⟩

theorem segments_of_absolute {url : Url} (h : absolute chars = .ok url) (hhttp : IsHttp url.scheme) :
    ∃ names, url.path = .segments names := by
  rw [absolute] at h
  split at h
  · obtain rfl := scheme_of_withScheme rfl h
    simp only [withScheme, hhttp.not_file, hhttp.special, Option.filter_none, if_true,
      Bool.false_eq_true, if_false] at h
    exact segments_of_afterSlashes h
  · cases h

theorem behind_of_absolute {base : Url} (h : absolute (z ++ ['/']) = .ok base)
    (hhttp : IsHttp base.scheme) :
    ∃ a front, base = behind base.scheme a (front ++ ['/']) ∧
      absolute z = .ok (behind base.scheme a front) ∧ ∀ c ∈ front, c ∈ z := by
  rw [absolute] at h
  split at h
  · next scheme rest hsplit =>
    obtain ⟨r, rfl, hr⟩ := splitScheme?_slash hsplit
    obtain rfl := scheme_of_withScheme rfl h
    simp only [withScheme, hhttp.not_file, hhttp.special, Option.filter_none, if_true,
      Bool.false_eq_true, if_false, List.dropWhile_append] at h
    simp only [absolute, hr, withScheme, hhttp.not_file, hhttp.special, Option.filter_none, if_true,
      Bool.false_eq_true, if_false]
    split_ifs at h
    · rw [show ['/'].dropWhile isEitherSlash = [] from rfl, afterSlashes_nil hhttp.special] at h
      cases h
    · obtain ⟨a, front, hbase, hz, hmem⟩ := afterSlashes_slash hhttp.special h
      exact ⟨a, front, hbase, hz, fun c hc =>
        mem_of_splitScheme? hr (List.dropWhile_subset _ (hmem c hc))⟩
  · cases h

/-- A text with a slash at its end is read as the text without it, but for the path. -/
theorem absolute_slash {base : Url} (h : absolute (z ++ ['/']) = .ok base) (hhttp : IsHttp base.scheme)
    (hplain : ∀ c ∈ z, endsPath c = false) : ∃ u, absolute z = .ok u ∧ Slashed u base := by
  obtain ⟨a, front, hbase, hz, hmem⟩ := behind_of_absolute h hhttp
  refine ⟨_, hz, ?_⟩
  have hslashed := behind_slash hhttp.not_file a fun c hc => hplain c (hmem c hc)
  rwa [← hbase] at hslashed

end SeriesClient.Url
