import SeriesClient.Json.Failure
import SeriesClient.Url.Host

/-! What can go wrong, and what the user is told. -/

namespace SeriesClient

/-- Why a document is no schema for a stream. -/
inductive SchemaFault where
  | notAnObject (document : Json)
  | violatesDraft
  | unresolvedReference (reference : String)
  | badPattern (pattern : String)

namespace SchemaFault

def message : SchemaFault → String
  | notAnObject document => "schema must be a JSON object, got " ++ document.text
  | violatesDraft => "not a JSON Schema of draft 4"
  | unresolvedReference reference => "unresolvable reference " ++ Text.quoted reference
  | badPattern pattern => "not a regular expression: " ++ Text.quoted pattern

end SchemaFault

inductive StreamError where
  | schema (fault : SchemaFault)
  | addressingConflict
  /-- The server answered with a status outside 200 to 299. -/
  | transport (status : Nat) (message : String)
  | emptyResult (index : Int64)
  /-- No answer came, or the request could not be made. -/
  | http
  | invalidUrl (fault : Url.Fault)
  | webSocket
  /-- A text is not JSON, or JSON not what it should be; the text says where and how. -/
  | serialization (detail : String)
  | unexpectedResponse (detail : String)
  | missingUrl
  | pushUnavailable
  | connectionClosed

namespace StreamError

def ofMismatch (cause : Json.Mismatch) : StreamError := serialization cause.message

def ofFailure (text : List Glyph) (failure : Json.Failure) : StreamError :=
  serialization (failure.message text)

def message : StreamError → String
  | schema fault => "Invalid stream schema: " ++ fault.message
  | addressingConflict => "Can't query a stream both by index and by timestamp"
  | transport status text =>
    "API error (" ++ Json.countText status ++ "): " ++ text
  | emptyResult index =>
    "No datapoint at index " ++ String.ofList (Json.integerChars index.toInt)
  | http => "HTTP request failed"
  | invalidUrl fault => "Invalid URL: " ++ fault.message
  | webSocket => "WebSocket error"
  | serialization detail => "JSON serialization error: " ++ detail
  | unexpectedResponse detail => "Unexpected response: " ++ detail
  | missingUrl => "Missing DataStream URL"
  | pushUnavailable => "No push connection configured"
  | connectionClosed => "Connection closed"

/-- The status of a failed request, if the server answered at all. -/
def status? : StreamError → Option Nat
  | transport status _ => some status
  | _ => none

end StreamError
end SeriesClient
