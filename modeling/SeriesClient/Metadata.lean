import SeriesClient.Exchange

/-! An object on the server and its metadata as the server last told them. Changes go to the server,
and what it answers takes the place of what was known. -/

namespace SeriesClient

structure Metadata where
  path : String
  document : Json.Members := []

namespace Metadata

variable {κ : Type}

def field? (m : Metadata) (name : String) : Option Json := Json.lookup name m.document

def replace (m : Metadata) (answer : Json) : Except StreamError Metadata :=
  match answer with
  | .object members => .ok { m with document := members }
  | other => .error (.unexpectedResponse
      ("expected metadata object for " ++ m.path ++ ", got " ++ other.text))

/-- Takes over an answer; a failure leaves all as it was. -/
def takeAnswer (m : Metadata) (answer : Except StreamError Json) :
    Metadata × Except StreamError Unit :=
  match answer.bind m.replace with
  | .ok m => (m, .ok ())
  | .error e => (m, .error e)

def refresh (m : Metadata) : Exchange κ (Metadata × Except StreamError Unit) :=
  (Exchange.api (.get m.path [])).map m.takeAnswer

def set (m : Metadata) (changes : Json) : Exchange κ (Metadata × Except StreamError Unit) :=
  (Exchange.api (.put m.path changes)).map m.takeAnswer

end Metadata
end SeriesClient
