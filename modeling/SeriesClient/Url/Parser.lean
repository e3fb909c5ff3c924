import SeriesClient.Url.Basic

/-! Reading URLs, on their own or relative to a base. -/

namespace SeriesClient.Url

/-- The text without control characters and spaces around it and without tabs and line ends. -/
def clean (chars : List Char) : List Char :=
  let low (c : Char) := c.toNat ≤ 0x20
  let inner := ((chars.dropWhile low).reverse.dropWhile low).reverse
  inner.filter fun c => c != '\t' && c != '\n' && c != '\r'

def isLetter (c : Char) : Bool := ('a' ≤ c && c ≤ 'z') || ('A' ≤ c && c ≤ 'Z')

def isSchemeChar (c : Char) : Bool :=
  isLetter c || Host.isDigit c || c = '+' || c = '-' || c = '.'

def splitScheme? (chars : List Char) : Option (List Char × List Char) :=
  if chars.head?.any isLetter then
    match chars.dropWhile isSchemeChar with
    | ':' :: rest => some ((chars.takeWhile isSchemeChar).map Char.toLower, rest)
    | _ => none
  else none

def isSlash (special : Bool) (c : Char) : Bool := c = '/' || (special && c = '\\')

def isEitherSlash (c : Char) : Bool := c = '/' || c = '\\'

def endsPath (c : Char) : Bool := c = '?' || c = '#'

def endsAuthority (special : Bool) (c : Char) : Bool := isSlash special c || endsPath c

def splitLast? (c : Char) (chars : List Char) : Option (List Char × List Char) :=
  let reversed := chars.reverse
  match reversed.dropWhile (· != c) with
  | [] => none
  | _ :: front => some (front.reverse, (reversed.takeWhile (· != c)).reverse)

/-- A name or a password; an empty password is none, and both empty are no user information. -/
def parseUserinfo (chars : List Char) : Option Userinfo :=
  let name := chars.takeWhile (· != ':')
  let password := (chars.dropWhile (· != ':')).drop 1
  if name.isEmpty && password.isEmpty then none
  else
    some {
      name := percentEncode inUserinfoSet name
      password := if password.isEmpty then none else some (percentEncode inUserinfoSet password) }

def splitPort (inside : Bool) : List Char → List Char × Option (List Char)
  | [] => ([], none)
  | c :: rest =>
    if c = ':' && !inside then ([], some rest)
    else
      let inside := if c = '[' then true else if c = ']' then false else inside
      let (host, port) := splitPort inside rest
      (c :: host, port)

/-- A port number of 16 bits, digit by digit. -/
def parsePort (digits : List Char) : Except Fault (Option Nat) :=
  if digits.isEmpty then .ok none
  else
    match digits.foldlM (fun n c =>
        match Host.digitIn? 10 c with
        | some d => if n * 10 + d < 65536 then some (n * 10 + d) else none
        | none => none) 0 with
    | some port => .ok (some port)
    | none => .error .invalidPort

structure Authority where
  userinfo : Option Userinfo
  host : Host
  port : Option Nat

/-- The host and the port, and what is left over: a port ends at a backslash in every scheme. -/
def parseHostPort (scheme : List Char) (userinfo : Option Userinfo) (chars : List Char) :
    Except Fault (Authority × List Char) :=
  let special := isSpecial scheme
  let (hostChars, portChars) := splitPort false chars
  if special && hostChars.isEmpty then .error .emptyHost
  else
    match if special then Host.parse hostChars else Host.parseOpaque hostChars with
    | .error fault => .error fault
    | .ok host =>
      if host = .domain [] && portChars.isSome then .error .emptyHost
      else
        let digits := (portChars.getD []).takeWhile (· != '\\')
        match parsePort digits with
        | .error fault => .error fault
        | .ok port =>
          if host = .domain [] && userinfo.isSome then .error .emptyHost
          else
            .ok (⟨userinfo, host, if port = defaultPort? scheme then none else port⟩,
              (portChars.getD []).drop digits.length)

/-- What stands between the two slashes and the path, and what of it is left over. `bare` says that
nothing follows. -/
def parseAuthority (scheme : List Char) (bare : Bool) (chars : List Char) :
    Except Fault (Authority × List Char) :=
  match splitLast? '@' chars with
  | none => parseHostPort scheme none chars
  | some (credentials, hostPort) =>
    if credentials.isEmpty && hostPort.isEmpty && !bare then .error .emptyHost
    else parseHostPort scheme (parseUserinfo credentials) hostPort

def isDrive (letters : List Char) : Bool :=
  match letters with
  | [c, d] => isLetter c && (d = ':' || d = '|')
  | _ => false

def isPlainDrive (letters : List Char) : Bool :=
  match letters with
  | [c, d] => isLetter c && d = ':'
  | _ => false

/-- A dot may be written as `%2e`. -/
def isDot (segment : List Char) : Bool :=
  segment == ['.'] || segment.map Char.toLower == ['%', '2', 'e']

def isDotDot (segment : List Char) : Bool :=
  let low := segment.map Char.toLower
  low == ['.', '.'] || low == ['.', '%', '2', 'e'] || low == ['%', '2', 'e', '.'] ||
    low == ['%', '2', 'e', '%', '2', 'e']

/-- A drive, alone or with a backslash after it. Nothing climbs above such a segment. -/
def opensAsDrive (segment : List Char) : Bool :=
  match segment with
  | [c, d] => isDrive [c, d]
  | c :: d :: e :: _ => isDrive [c, d] && e = '\\'
  | _ => false

/-- One level up, unless that would leave a drive. -/
def climb (path : List (List Char)) : List (List Char) :=
  if path.getLast?.any opensAsDrive then path else path.dropLast

/-- The first segment of a file path may be a drive, which is then written with a colon. -/
def encodeSegment (file : Bool) (path : List (List Char)) (segment : List Char) : List Char :=
  if file && path.isEmpty && isDrive segment then segment.take 1 ++ [':']
  else percentEncode inPathSet segment

/-- Appends the segments of a relative path. Dots name the place itself and the place above, and at
the end of a path they stand for what is in that place. -/
def walk (file : Bool) : List (List Char) → List (List Char) → List (List Char)
  | path, [] => path
  | path, [last] =>
    if isDotDot last then climb path ++ [[]]
    else if isDot last then path ++ [[]]
    else path ++ [encodeSegment file path last]
  | path, segment :: rest =>
    if isDotDot segment then walk file (climb path) rest
    else if isDot segment then walk file path rest
    else walk file (path ++ [encodeSegment file path segment]) rest

def splitSegments (special : Bool) : List Char → List (List Char)
  | [] => [[]]
  | c :: rest =>
    if isSlash special c then [] :: splitSegments special rest
    else match splitSegments special rest with
      | [] => [[c]]
      | segment :: segments => (c :: segment) :: segments

/-- A file path does not open with empty segments. -/
def trimFile (path : List (List Char)) : List (List Char) :=
  match path.dropWhile List.isEmpty with
  | [] => [[]]
  | path => path

/-- The path that `chars`, which come after a slash, lead to from `start`. -/
def pathFrom (scheme : List Char) (start : List (List Char)) (chars : List Char) : Path :=
  let path := walk (isFile scheme) start (splitSegments (isSpecial scheme) chars)
  .segments (if isFile scheme then trimFile path else path)

def splitFragment (chars : List Char) : List Char × Option (List Char) :=
  (chars.takeWhile (· != '#'), (chars.dropWhile (· != '#')).tail?)

def encodeQuery (scheme : List Char) (query : List Char) : List Char :=
  percentEncode (if isSpecial scheme then inSpecialQuerySet else inQuerySet) query

/-- Adds the query and the fragment, which are all that is left of the text. -/
def withTail (url : Url) (chars : List Char) : Url :=
  let (front, fragment) := splitFragment chars
  { url with
    query := front.tail?.map (encodeQuery url.scheme)
    fragment := fragment.map (percentEncode inFragmentSet) }

def pathPart (chars : List Char) : List Char := chars.takeWhile (!endsPath ·)

def tailPart (chars : List Char) : List Char := chars.dropWhile (!endsPath ·)

/-- The text after the two slashes that announce a host. -/
def afterSlashes (scheme : List Char) (chars : List Char) : Except Fault Url := do
  let special := isSpecial scheme
  let authority := chars.takeWhile (!endsAuthority special ·)
  let rest := chars.dropWhile (!endsAuthority special ·)
  let (a, left) ← parseAuthority scheme rest.isEmpty authority
  let path := pathPart (left ++ rest)
  let segments : Path :=
    if path.isEmpty && !special then .segments []
    else if path.head?.any (isSlash special) then pathFrom scheme [] (path.drop 1)
    else pathFrom scheme [] path
  pure (withTail ⟨scheme, a.userinfo, some a.host, a.port, segments, none, none⟩
    (tailPart (left ++ rest)))

/-- The text after two slashes in a file URL. A drive in the place of the host is part of the path,
and the local host need not be named. A drive that the path of another host opens with belongs to
no host. -/
def afterFileSlashes (chars : List Char) : Except Fault Url := do
  let scheme := "file".toList
  let name := chars.takeWhile (!endsAuthority true ·)
  let drive := isDrive name
  let rest := if drive then chars else chars.dropWhile (!endsAuthority true ·)
  let host ← if drive || name.isEmpty then pure (Host.domain []) else Host.parse name
  let host := if host = .domain "localhost".toList then Host.domain [] else host
  let path := pathPart rest
  -- With no host named, the slash that opens the path is one too many, and is trimmed below.
  let path := if host = .domain [] then path else path.drop 1
  let names := walk true [] (splitSegments true path)
  let host := if names.head?.any isPlainDrive then Host.domain [] else host
  pure (withTail ⟨scheme, none, some host, none, .segments (trimFile names), none, none⟩
    (tailPart rest))

def opensWithDrive (chars : List Char) : Bool :=
  isDrive (chars.take 2) &&
    match chars.drop 2 with
    | [] => true
    | c :: _ => isEitherSlash c || endsPath c

def withPath (base : Url) (path : Path) (chars : List Char) : Url :=
  withTail { base with path := path } chars

def segmentsOf (url : Url) : List (List Char) :=
  match url.path with
  | .segments names => names
  | .opaquePath _ => []

/-- The part of the base that a text without a path keeps. -/
def keepPath (base : Url) (chars : List Char) : Url :=
  match chars with
  | [] => { base with fragment := none }
  | '#' :: rest => { base with fragment := some (percentEncode inFragmentSet rest) }
  | _ => withTail base chars

def relative (base : Url) (chars : List Char) : Except Fault Url :=
  match chars with
  | [] => .ok (keepPath base [])
  | c :: rest =>
    if endsPath c then .ok (keepPath base chars)
    else if isEitherSlash c then
      if rest.head?.any isEitherSlash then
        match chars with
        | '/' :: '/' :: after => afterSlashes base.scheme after
        | _ => afterSlashes base.scheme (chars.dropWhile isEitherSlash)
      else .ok (withPath base (pathFrom base.scheme [] (pathPart rest)) (tailPart rest))
    else
      let start := base.segmentsOf.dropLast
      .ok (withPath base (pathFrom base.scheme start (pathPart chars)) (tailPart chars))

def emptyFile : Url := ⟨"file".toList, none, some (.domain []), none, .segments [], none, none⟩

/-- The drive that a path under `base` starts from, if it has one. -/
def driveOf (base : Option Url) : List (List Char) :=
  match base.map segmentsOf with
  | some (first :: _) => if isPlainDrive first then [first] else []
  | _ => []

def relativeFile (base : Option Url) (chars : List Char) : Except Fault Url :=
  let scheme := "file".toList
  let under (url : Url) (start : List (List Char)) (path : List Char) : Url :=
    withPath { url with query := none, fragment := none } (pathFrom scheme start (pathPart path))
      (tailPart path)
  match chars with
  | '/' :: '/' :: rest | '/' :: '\\' :: rest | '\\' :: '/' :: rest | '\\' :: '\\' :: rest =>
    afterFileSlashes rest
  | c :: rest =>
    if isEitherSlash c then
      if opensWithDrive rest then .ok (under emptyFile [] rest)
      else if (driveOf base).isEmpty then .ok (under (base.getD emptyFile) [] rest)
      else .ok (under emptyFile (driveOf base) rest)
    else match base with
      | none => .ok (under emptyFile [] chars)
      | some base =>
        if endsPath c then .ok (keepPath base chars)
        else if opensWithDrive chars then .ok (under emptyFile [] chars)
        else
          let names := base.segmentsOf
          let start := if names.getLast?.any isPlainDrive then names else names.dropLast
          .ok (withPath base (pathFrom scheme start (pathPart chars)) (tailPart chars))
  | [] =>
    match base with
    | none => .ok (under emptyFile [] [])
    | some base => .ok (keepPath base [])

def withScheme (base : Option Url) (scheme chars : List Char) : Except Fault Url :=
  let sameScheme := base.filter (·.scheme == scheme)
  if isFile scheme then relativeFile sameScheme chars
  else if isSpecial scheme then
    match sameScheme with
    | some base =>
      if (chars.takeWhile isEitherSlash).length < 2 then relative base chars
      else afterSlashes scheme (chars.dropWhile isEitherSlash)
    | none => afterSlashes scheme (chars.dropWhile isEitherSlash)
  else
    match chars with
    | '/' :: '/' :: rest => afterSlashes scheme rest
    | '/' :: rest =>
      .ok (withTail ⟨scheme, none, none, none, pathFrom scheme [] (pathPart rest), none, none⟩
        (tailPart rest))
    | _ =>
      let path := Path.opaquePath (percentEncode isControl (pathPart chars))
      .ok (withTail ⟨scheme, none, none, none, path, none, none⟩ (tailPart chars))

/-- Reads a text as a URL, relative to `base` if it has no scheme of its own. -/
def parseWith (base : Option Url) (text : String) : Except Fault Url :=
  let chars := clean text.toList
  match splitScheme? chars with
  | some (scheme, rest) => withScheme base scheme rest
  | none =>
    match base with
    | none => .error .relativeWithoutBase
    | some base =>
      match base.path, chars with
      | _, '#' :: _ => .ok (keepPath base chars)
      | .opaquePath _, _ => .error .relativeToOpaque
      | _, _ =>
        if isFile base.scheme then relativeFile (some base) chars else relative base chars

def parse (text : String) : Except Fault Url := parseWith none text

/-- What a reference in a document at `base` refers to. -/
def join (base : Url) (reference : String) : Except Fault Url := parseWith (some base) reference

end SeriesClient.Url
