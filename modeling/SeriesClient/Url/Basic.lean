import SeriesClient.Url.Host

/-! URLs: their parts, and the text they are written in. -/

namespace SeriesClient

namespace Url

inductive Path where
  /-- A path that nothing can be relative to. -/
  | opaquePath (chars : List Char)
  | segments (names : List (List Char))
  deriving DecidableEq, Repr

structure Userinfo where
  name : List Char
  password : Option (List Char)
  deriving DecidableEq, Repr

end Url

structure Url where
  scheme : List Char
  userinfo : Option Url.Userinfo
  host : Option Url.Host
  /-- Left out when it is the scheme's own. -/
  port : Option Nat
  path : Url.Path
  query : Option (List Char)
  fragment : Option (List Char)
  deriving DecidableEq, Repr

namespace Url

/-- Schemes whose URLs always have a host, `file` apart, and a path of segments, and in which a
backslash is a slash. -/
def isSpecialName (scheme : String) : Bool :=
  ["http", "https", "ws", "wss", "ftp", "file"].contains scheme

def isSpecial (scheme : List Char) : Bool := isSpecialName (String.ofList scheme)

def isFile (scheme : List Char) : Bool := scheme == "file".toList

def defaultPort? (scheme : List Char) : Option Nat :=
  let name := String.ofList scheme
  if name = "http" || name = "ws" then some 80
  else if name = "https" || name = "wss" then some 443
  else if name = "ftp" then some 21
  else none

def Userinfo.chars (u : Userinfo) : List Char :=
  u.name ++ (u.password.map (':' :: ·)).getD [] ++ ['@']

def Path.chars : Path → List Char
  | opaquePath chars => chars
  | segments names => names.flatMap ('/' :: ·)

def authorityChars (url : Url) : List Char :=
  match url.host with
  | none => []
  | some host =>
    '/' :: '/' :: ((url.userinfo.map Userinfo.chars).getD [] ++ host.chars ++
      (url.port.map fun p => ':' :: Decimal.digitChars p).getD [])

/-- Without a host, a path that opens with two slashes is kept apart from an authority. -/
def pathMark (url : Url) : List Char :=
  match url.host, url.path with
  | none, .segments ([] :: _ :: _) => ['/', '.']
  | _, _ => []

/-- The URL up to the end of its path. -/
def locationChars (url : Url) : List Char :=
  url.scheme ++ ':' :: (url.authorityChars ++ url.pathMark ++ url.path.chars)

def chars (url : Url) : List Char :=
  url.locationChars ++ (url.query.map ('?' :: ·)).getD [] ++ (url.fragment.map ('#' :: ·)).getD []

def text (url : Url) : String := String.ofList url.chars

end Url
end SeriesClient
