import SeriesClient.Url.Parser

/-! References between schemas: URIs, and references that leave out what they share with the place they
stand in. Only ASCII may be written; all else is escaped. Two URIs that differ in nothing but spelling
have the same normal form, but no part is added, so `http://x` and `http://x/` stay apart. -/

namespace SeriesClient.Schema

namespace Uri

structure Authority where
  userinfo : Option (List Char)
  /-- With its brackets, if it is an address. -/
  host : List Char
  port : Option (List Char)
  deriving DecidableEq, Repr

end Uri

/-- A URI, or without a scheme a relative reference. -/
structure Uri where
  scheme : Option (List Char)
  authority : Option Uri.Authority
  path : List Char
  query : Option (List Char)
  fragment : Option (List Char)
  deriving DecidableEq, Repr

namespace Uri

def hexValue? (c : Char) : Option Nat := Url.Host.digitIn? 16 c

def isUnreserved (c : Char) : Bool :=
  Url.isLetter c || Url.Host.isDigit c || c = '-' || c = '.' || c = '_' || c = '~'

def isSubDelimiter (c : Char) : Bool :=
  ['!', '$', '&', '\'', '(', ')', '*', '+', ',', ';', '='].contains c

/-- Whether a part has no characters but those that may stand in any part, escaped bytes, and those
of `others`. -/
def isPart (others : List Char) : List Char → Bool
  | [] => true
  | '%' :: a :: b :: rest => (hexValue? a).isSome && (hexValue? b).isSome && isPart others rest
  | c :: rest => (isUnreserved c || isSubDelimiter c || others.contains c) && isPart others rest

def isPath (chars : List Char) : Bool := isPart ['/', ':', '@'] chars

def isTail (chars : List Char) : Bool := isPart ['/', ':', '@', '?'] chars

/-- An address of a version to come, between its brackets. -/
def isFutureAddress (chars : List Char) : Bool :=
  match chars with
  | v :: rest =>
    let version := rest.takeWhile (· != '.')
    let address := (rest.dropWhile (· != '.')).drop 1
    (v = 'v' || v = 'V') && !version.isEmpty && version.all (fun c => (hexValue? c).isSome) &&
      !address.isEmpty && address.all fun c => isUnreserved c || isSubDelimiter c || c = ':'
  | [] => false

def isAddress (chars : List Char) : Bool :=
  (Url.Host.ipv6? chars).isSome || isFutureAddress chars

/-- The digits after a colon, of which there may be none. -/
def port? (chars : List Char) : Option (Option (List Char)) :=
  match chars with
  | [] => some none
  | ':' :: digits => if digits.all Url.Host.isDigit then some (some digits) else none
  | _ => none

def hostAndPort? (chars : List Char) : Option (List Char × Option (List Char)) :=
  match chars with
  | '[' :: rest =>
    let address := rest.takeWhile (· != ']')
    match rest.dropWhile (· != ']') with
    | ']' :: after =>
      if isAddress address then (port? after).map ('[' :: (address ++ [']']), ·) else none
    | _ => none
  | _ =>
    let name := chars.takeWhile (· != ':')
    if isPart [] name then (port? (chars.dropWhile (· != ':'))).map (name, ·) else none

def authority? (chars : List Char) : Option Authority :=
  match Url.splitLast? '@' chars with
  | some (user, rest) =>
    if isPart [':'] user then
      (hostAndPort? rest).map fun (host, port) => ⟨some user, host, port⟩
    else none
  | none => (hostAndPort? chars).map fun (host, port) => ⟨none, host, port⟩

def location? (chars : List Char) : Option (Option Authority × List Char) :=
  match chars with
  | '/' :: '/' :: rest =>
    let path := rest.dropWhile (· != '/')
    if isPath path then (authority? (rest.takeWhile (· != '/'))).map (some ·, path) else none
  | _ => if isPath chars then some (none, chars) else none

/-- A relative path may not open with a segment that looks like a scheme. -/
def readsAsScheme (path : List Char) : Bool := (path.takeWhile (· != '/')).contains ':'

def parse? (chars : List Char) : Option Uri := do
  let (front, fragment) := Url.splitFragment chars
  let location := front.takeWhile (· != '?')
  let query := (front.dropWhile (· != '?')).tail?
  let (scheme, rest) := match Url.splitScheme? location with
    | some (scheme, rest) => (some scheme, rest)
    | none => (none, location)
  let (authority, path) ← location? rest
  if scheme.isNone && authority.isNone && readsAsScheme path then none
  else if isTail (query.getD []) && isTail (fragment.getD []) then
    some ⟨scheme, authority, path, query, fragment⟩
  else none

/-- Escapes what has to be escaped, in capitals, and nothing else. -/
def normalizePart (lower : Bool) : List Char → List Char
  | '%' :: a :: b :: rest =>
    let c := Char.ofNat ((hexValue? a).getD 0 * 16 + (hexValue? b).getD 0)
    if isUnreserved c then (if lower then c.toLower else c) :: normalizePart lower rest
    else '%' :: a.toUpper :: b.toUpper :: normalizePart lower rest
  | c :: rest => (if lower then c.toLower else c) :: normalizePart lower rest
  | [] => []

def normalizeHost (host : List Char) : List Char :=
  match host with
  | '[' :: rest =>
    match Url.Host.ipv6? (rest.takeWhile (· != ']')) with
    | some pieces => (Url.Host.ipv6 pieces).chars
    | none => host.map Char.toLower
  | _ => normalizePart true host

def Authority.normalize (a : Authority) : Authority where
  userinfo := a.userinfo.map (normalizePart false)
  host := normalizeHost a.host
  port := a.port.filter (!·.isEmpty)

/-- Follows the segments of a path from the root: `done` are those that lead to the place so far. -/
def resolveDots (done : List (List Char)) : List (List Char) → List (List Char)
  | [] => done
  | [last] =>
    if Url.isDotDot last then done.dropLast ++ [[]]
    else if Url.isDot last then done ++ [[]]
    else done ++ [last]
  | segment :: rest =>
    if Url.isDotDot segment then resolveDots done.dropLast rest
    else if Url.isDot segment then resolveDots done rest
    else resolveDots (done ++ [segment]) rest

def isAbsolute (path : List Char) : Bool := path.head? = some '/'

def removeDots (path : List Char) : List Char :=
  match path with
  | '/' :: rest => (resolveDots [] (Url.splitSegments false rest)).flatMap ('/' :: ·)
  | _ => path

/-- Without an authority, a path that opens with two slashes is kept apart from one. -/
def guardPath (authority : Option Authority) (path : List Char) : List Char :=
  match authority, path with
  | none, '/' :: '/' :: _ => '/' :: '.' :: path
  | _, _ => path

def normalize (u : Uri) : Uri where
  scheme := u.scheme
  authority := u.authority.map Authority.normalize
  path :=
    let path := normalizePart false u.path
    if u.scheme.isSome then guardPath u.authority (removeDots path) else path
  query := u.query.map (normalizePart false)
  fragment := u.fragment.map (normalizePart false)

def isFragmentOnly (u : Uri) : Bool :=
  u.scheme.isNone && u.authority.isNone && u.path.isEmpty && u.query.isNone

/-- Whether nothing can be relative to a URI. -/
def isOpaque (u : Uri) : Bool := u.authority.isNone && !isAbsolute u.path

/-- A relative path in the place of the last segment of the base's. -/
def mergePath (base : Uri) (path : List Char) : List Char :=
  if base.path.isEmpty then '/' :: path
  else ((Url.splitLast? '/' base.path).map (·.1 ++ ['/'])).getD [] ++ path

/-- What a reference in a document at `base` refers to. A base with a fragment is no document. -/
def resolve? (base reference : Uri) : Option Uri :=
  if base.fragment.isSome then none
  else if base.isOpaque && reference.scheme.isNone && !reference.isFragmentOnly then none
  else if reference.scheme.isSome then some { reference with path := removeDots reference.path }
  else if reference.authority.isSome then
    some { reference with scheme := base.scheme, path := removeDots reference.path }
  else if reference.path.isEmpty then
    some { base with query := reference.query.or base.query, fragment := reference.fragment }
  else
    let path := if isAbsolute reference.path then reference.path else mergePath base reference.path
    some { reference with
      scheme := base.scheme
      authority := base.authority
      path := guardPath base.authority (removeDots path) }

/-- Schemas without a name of their own are taken to be here. -/
def unnamed : Uri := ⟨some "json-schema".toList, some ⟨none, [], none⟩, ['/'], none, none⟩

/-- The URI that a name on its own stands for. -/
def ofName? (name : String) : Option Uri := do
  let reference ← parse? name.toList
  if reference.scheme.isSome then some reference.normalize
  else (unnamed.resolve? reference.normalize).map normalize

/-- The URI that a reference in a document at `base` stands for. The fragment of the base itself is
found even if the base is a part of a document. -/
def against? (base : Uri) (reference : String) : Option Uri :=
  match reference.toList with
  | '#' :: fragment =>
    if base.fragment = some fragment then some base
    else ((parse? ('#' :: fragment)).bind base.resolve?).map normalize
  | chars => ((parse? chars).bind base.resolve?).map normalize

def document (u : Uri) : Uri := { u with fragment := none }

end Uri
end SeriesClient.Schema
