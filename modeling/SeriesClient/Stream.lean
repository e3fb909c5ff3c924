import SeriesClient.Metadata
import SeriesClient.Channel
import SeriesClient.Schema
import SeriesClient.Text.Blank
import SeriesClient.Json.Debug

/-! A stream: its metadata, inserts, reads by index and by time, and live updates. -/

namespace SeriesClient

/-- A stream by name, with its metadata as last told by the server. -/
structure Stream where
  object : Metadata

namespace Stream

variable {κ α : Type}

def named (name : String) : Stream := ⟨⟨name, []⟩⟩

def name (s : Stream) : String := s.object.path

def dataPath (s : Stream) : String := s.name ++ "/data"

def nickname? (s : Stream) : Option String := (s.object.field? "nickname").bind Json.string?

/-- An unset flag is reported as `null`. -/
def flag (s : Stream) (name : String) : Bool :=
  ((s.object.field? name).bind Json.bool?).getD false

def downlink (s : Stream) : Bool := s.flag "downlink"

def ephemeral (s : Stream) : Bool := s.flag "ephemeral"

/-- The schema in the metadata, which holds it as a text or as a document. -/
def schema (s : Stream) : Except StreamError Json :=
  match s.object.field? "schema" with
  | some (.string raw) =>
    let text := Glyph.ofString raw
    match Json.parseNormal text with
    | .ok document => .ok document
    | .error failure => .error (.ofFailure text failure)
  | some (.object members) => .ok (.object members)
  | _ => .error (.unexpectedResponse ("stream " ++ s.name ++ " has no schema in its metadata"))

def debugText (s : Stream) : String :=
  "DataStream \x7b name: " ++ Text.quoted s.name ++ ", metadata: \x7b" ++
    Json.debugMembers s.object.document ++ "\x7d \x7d"

abbrev Changing (κ : Type) := Exchange κ (Stream × Except StreamError Unit)

def refresh (s : Stream) : Changing κ := s.object.refresh.map fun (m, r) => (⟨m⟩, r)

/-- A handle whose metadata the server has told. -/
def opened (name : String) : Exchange κ (Except StreamError Stream) :=
  (named name).refresh.map fun (s, r) => r.map fun _ => s

def set (s : Stream) (field : String) (value : Json) : Changing κ :=
  (s.object.set (.object [(field, value)])).map fun (m, r) => (⟨m⟩, r)

def setNickname (s : Stream) (nickname : String) : Changing κ := s.set "nickname" (.string nickname)

def setDownlink (s : Stream) (on : Bool) : Changing κ := s.set "downlink" (.bool on)

def setEphemeral (s : Stream) (on : Bool) : Changing κ := s.set "ephemeral" (.bool on)

def create (s : Stream) (schema : Json) : Changing κ :=
  match Schema.check schema with
  | .error fault => .done (s, .error (.schema fault))
  | .ok () =>
    (Exchange.api (.post s.name schema)).map fun answer =>
      let (m, r) := s.object.takeAnswer answer
      (⟨m⟩, r)

/-- A numeral of decimal digits below `2 ^ 64`, with or without a plus sign. -/
def numeral? (chars : List Char) : Option Nat :=
  let digits := match chars with
    | '+' :: rest => rest
    | rest => rest
  if digits.isEmpty then none
  else
    digits.foldlM (fun n c =>
      match Json.Numeral.digit? (.char c) with
      | some d => if n * 10 + d < Json.Numeral.wordBound then some (n * 10 + d) else none
      | none => none) 0

def count? : Json → Option Nat
  | .number (.integer n _) => if 0 ≤ n then some n.toNat else none
  | .string s => numeral? (Text.trimChars s.toList)
  | _ => none

def readCount (answer : Json) : Except StreamError Nat :=
  match count? answer with
  | some n => .ok n
  | none => .error (.unexpectedResponse ("expected a count, got " ++ answer.text))

def length (s : Stream) : Exchange κ (Except StreamError Nat) :=
  (Exchange.api (.get s.dataPath [("q", "length")])).map (·.bind readCount)

def timeToIndex (s : Stream) (t : Float) : Exchange κ (Except StreamError Nat) :=
  (Exchange.api (.get s.dataPath [("q", "time2index"), ("t", Query.timeText t)])).map
    (·.bind readCount)

/-- The document that an insert sends to the API. -/
def insertBody (points : List Datapoint) : Json := (Datapoint.listToJson points).normalize

/-- A `put` lets the server give new times to datapoints that are out of order. -/
def insertCall (s : Stream) (points : List Datapoint) (restamp : Bool) : Call :=
  if restamp then .put s.dataPath (insertBody points) else .post s.dataPath (insertBody points)

def insertOverHttp (s : Stream) (points : List Datapoint) (restamp : Bool) :
    Exchange κ (Except StreamError Unit) :=
  (Exchange.api (s.insertCall points restamp)).map (·.map fun _ => ())

/-- Inserts over the push connection if that is wanted and possible, and otherwise once over HTTP. -/
def insertMany (access : Access) (s : Stream) (points : List Datapoint) (restamp : Bool) :
    Exchange κ (Except StreamError Unit) :=
  if access.pushInserts && access.hasPush then
    .ask (.pushInsert s.name points) fun (sent : Bool) =>
      if sent then .done (.ok ()) else s.insertOverHttp points restamp
  else s.insertOverHttp points restamp

def insert (access : Access) (s : Stream) (value : Json) : Exchange κ (Except StreamError Unit) :=
  s.insertMany access [Datapoint.unstamped value] true

def readPoints (answer : Json) : Except StreamError (List Datapoint) :=
  (Datapoint.listOfAnswer answer).mapError StreamError.ofMismatch

def query (s : Stream) (q : Query) : Exchange κ (Except StreamError (List Datapoint)) :=
  (Exchange.api (.get s.dataPath q.parameters)).map (·.bind readPoints)

/-- The datapoint at an index; a negative one counts back from the newest. -/
def get (s : Stream) (index : Int64) : Exchange κ (Except StreamError Datapoint) :=
  if index = Int64.maxValue then .done (.error (.emptyResult index))
  else
    (s.query (Query.byIndex index (index + 1))).map fun points => do
      match ← points with
      | [] => .error (.emptyResult index)
      | p :: _ => .ok p

/-- The datapoints from `start` up to but not including `stop`, where a `stop` of 0 is the end. -/
def slice (s : Stream) (start stop : Option Int64) :
    Exchange κ (Except StreamError (List Datapoint)) :=
  s.query (Query.byIndex (start.getD 0) (stop.getD 0))

def sliceToEnd (s : Stream) (start : Int64) : Exchange κ (Except StreamError (List Datapoint)) :=
  s.query (Query.fromIndex start)

def subscribe (access : Access) (s : Stream) (callback : κ) (downlink : Bool) :
    Exchange κ (Except StreamError Unit) :=
  if access.hasPush then .ask (.subscribe (Channel.ofStream s.name downlink) callback) .done
  else .done (.error .pushUnavailable)

def unsubscribe (access : Access) (s : Stream) (downlink : Bool) :
    Exchange κ (Except StreamError Unit) :=
  if access.hasPush then .ask (.unsubscribe (Channel.ofStream s.name downlink)) .done
  else .done (.error .pushUnavailable)

/-- Registers a callback that feeds what the updates can then be taken from, and gives that back. -/
def watch (access : Access) (s : Stream) (feed : κ) (updates : α) (downlink : Bool) :
    Exchange κ (Except StreamError α) :=
  (s.subscribe access feed downlink).map (·.map fun _ => updates)

end Stream
end SeriesClient
