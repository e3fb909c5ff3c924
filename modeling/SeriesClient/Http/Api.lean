import SeriesClient.Exchange
import SeriesClient.Config
import SeriesClient.Url.Parser
import SeriesClient.Url.Form
import SeriesClient.Text.Blank

/-! The API over HTTP: how a call becomes a request, and what an answer means. -/

namespace SeriesClient.Http

inductive Method where
  | get | post | put
  deriving DecidableEq, Repr

def Method.text : Method → String
  | get => "GET"
  | post => "POST"
  | put => "PUT"

structure Request where
  method : Method
  /-- The place asked for; what names a user in it goes into `authorization`. -/
  url : Url
  authorization : List String
  body : Option Json

structure Response where
  status : Nat
  body : List UInt8

/-- Where the API is and how the client makes itself known. -/
structure Api where
  base : Url
  apiKey : Option String
  pushInsert : Bool

/-- Relative paths go below a root only if it ends in a slash. -/
def rootText (url : String) : String :=
  if url.toList.getLast? = some '/' then url else url ++ "/"

def Api.ofConfig (config : ClientConfig) : Except StreamError Api :=
  match Url.parse (rootText config.url) with
  | .ok base => .ok ⟨base, config.apiKey, config.pushInsert⟩
  | .error fault => .error (.invalidUrl fault)

def Api.urlOf (api : Api) (path : String) : Except StreamError Url :=
  match api.base.join (String.ofList (path.toList.dropWhile (· == '/'))) with
  | .ok url => .ok url
  | .error fault => .error (.invalidUrl fault)

def addParameters (url : Url) (parameters : Parameters) : Url :=
  let encoded := Url.Form.encode parameters
  match url.query with
  | some (c :: cs) =>
    if parameters.isEmpty then url
    else { url with query := some (c :: cs ++ '&' :: encoded) }
  | _ => { url with query := if parameters.isEmpty then none else some encoded }

def base64Digit (n : Nat) : Char :=
  if n < 26 then Char.ofNat (65 + n)
  else if n < 52 then Char.ofNat (71 + n)
  else if n < 62 then Char.ofNat (n - 4)
  else if n = 62 then '+' else '/'

def base64 : List UInt8 → List Char
  | [] => []
  | [a] =>
    let n := a.toNat * 16
    [base64Digit (n / 64), base64Digit (n % 64), '=', '=']
  | [a, b] =>
    let n := (a.toNat * 256 + b.toNat) * 4
    [base64Digit (n / 4096), base64Digit (n / 64 % 64), base64Digit (n % 64), '=']
  | a :: b :: c :: rest =>
    let n := (a.toNat * 256 + b.toNat) * 256 + c.toNat
    base64Digit (n / 262144) :: base64Digit (n / 4096 % 64) :: base64Digit (n / 64 % 64) ::
      base64Digit (n % 64) :: base64 rest

def decodedPart (chars : List Char) : Option String :=
  Glyph.strict? (Glyph.ofBytes (Url.percentDecode (Url.utf8Bytes chars)))

def basicHeader? (url : Url) : Option String := do
  let userinfo ← url.userinfo
  let name ← decodedPart userinfo.name
  let password := userinfo.password.bind decodedPart
  if name.isEmpty && password.isNone then none
  else
    let credentials := name ++ ":" ++ password.getD ""
    some ("Basic " ++ String.ofList (base64 (Url.utf8Bytes credentials.toList)))

def bearerHeader (key : String) : String := "Bearer " ++ key

/-- Header values have no control characters, tabs apart. -/
def isHeaderValue (value : String) : Bool :=
  value.toList.all fun c => c = '\t' || (0x20 ≤ c.toNat && c.toNat != 0x7F)

def Api.request (api : Api) (call : Call) : Except StreamError Request := do
  let (method, path, parameters, body) := match call with
    | .get path parameters => (Method.get, path, parameters, none)
    | .post path body => (.post, path, [], some body)
    | .put path body => (.put, path, [], some body)
  let joined ← api.urlOf path
  let url := if method = .get then addParameters joined parameters else joined
  let authorization := (basicHeader? url).toList ++ (api.apiKey.map bearerHeader).toList
  let scheme := String.ofList url.scheme
  if !(scheme = "http" || scheme = "https") || !authorization.all isHeaderValue then throw .http
  pure ⟨method, { url with userinfo := none }, authorization, body⟩

/-- What a call asks for at the place of its path. -/
def target (joined : Url) : Call → Url
  | .get _ parameters => addParameters joined parameters
  | _ => joined

theorem Api.request_cases {api : Api} {call : Call} {request : Request}
    (h : api.request call = .ok request) :
    ∃ joined, api.urlOf call.path = .ok joined ∧
      ((target joined call).scheme = "http".toList ∨ (target joined call).scheme = "https".toList) ∧
      request.url = { target joined call with userinfo := none } ∧ request.body = call.body? := by
  cases hjoined : api.urlOf call.path with
  | error fault =>
    cases call <;>
    · simp only [Call.path] at hjoined
      simp [Api.request, hjoined, bind, Except.bind] at h
  | ok joined =>
    refine ⟨joined, rfl, ?_⟩
    cases call <;>
    · simp only [Call.path] at hjoined
      simp only [Api.request, hjoined, bind, Except.bind, reduceCtorEq, ↓reduceIte] at h
      split at h
      · cases h
      · next hsent =>
        cases h
        simp only [Bool.or_eq_true, not_or, Bool.not_eq_true', Bool.not_eq_false,
          decide_eq_true_eq] at hsent
        refine ⟨hsent.1.imp ?_ ?_, rfl, rfl⟩ <;> exact fun hscheme => hscheme ▸ (String.toList_ofList).symm

def errorField : String := "error"

/-- The three names under which a server may give the text of an error. -/
def isErrorName (name : String) : Bool := name = errorField || name = "msg" || name = "message"

open Json (Reader)

def readErrorObject : Reader String := do
  let found ← Reader.members
    (fun name (found : Option String) => do
      if isErrorName name then
        if found.isSome then Reader.mismatch (.repeated errorField)
        else
          Reader.colon
          let s ← Reader.readText
          pure (some s)
      else
        Reader.colon
        Reader.skipValue
        pure found) none
  match found with
  | some s => pure s
  | none => Reader.mismatch (.missing errorField)

def errorRecord : String := "the text of an error"

def errorList : String := "a list with the text of an error"

def readErrorList : Reader String := do
  match ← Reader.nextField true Reader.readText with
  | some s => pure s
  | none => Reader.mismatch (.tooFew 0 errorList)

/-- The text of an error in the body of an answer: the one field of a record, if it is one, and
otherwise the body itself. -/
def errorText (body : String) : String :=
  let reader := Reader.record errorRecord (fun _ => readErrorList) (fun _ => readErrorObject)
    Reader.depthLimit
  match Reader.run reader (Glyph.ofString body) with
  | .ok s => s
  | .error _ => Text.trim body

/-- A body that is not JSON counts as a text. -/
def bodyDocument (body : String) : Json :=
  if Text.isAllBlank body then .null
  else match Json.parseNormal (Glyph.ofString body) with
    | .ok document => document
    | .error _ => .string body

def isSuccess (status : Nat) : Bool := 200 ≤ status && status < 300

def Response.read (response : Response) : Except StreamError Json :=
  let body := Glyph.lossy (Glyph.ofBytes response.body)
  if isSuccess response.status then .ok (bodyDocument body)
  else .error (.transport response.status (errorText body))

end SeriesClient.Http
