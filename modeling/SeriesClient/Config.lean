import SeriesClient.Error

/-! How a client is set up: where the server is, and how a lost push connection is renewed. -/

namespace SeriesClient

/-- A span of time, as its nanoseconds. -/
structure Duration where ofNanoseconds ::
  total : Nat
  deriving DecidableEq, Repr

namespace Duration

/-- A span of whole milliseconds, the form most settings have. -/
def mk (milliseconds : Nat) : Duration := ofNanoseconds (milliseconds * 1000000)

def ofSeconds (n : Nat) : Duration := mk (n * 1000)

def seconds (d : Duration) : Nat := d.total / 1000000000

/-- What is left beside the whole seconds. -/
def nanoseconds (d : Duration) : Nat := d.total % 1000000000

end Duration

/-- When a lost push connection is renewed, and how often it is checked. -/
structure ReconnectPolicy where
  enabled : Bool := true
  intervals : List Duration := [1, 2, 4, 8, 16].map Duration.ofSeconds
  maxAttempts : Nat := 5
  pingInterval : Duration := Duration.ofSeconds 15
  deriving DecidableEq

/-- The wait before the attempt of that number, from 0 on; the last interval repeats. -/
def ReconnectPolicy.delay (policy : ReconnectPolicy) (attempt : Nat) : Duration :=
  match policy.intervals[attempt]? with
  | some d => d
  | none => policy.intervals.getLast?.getD (Duration.ofSeconds 16)

structure ClientConfig where
  /-- The root of the API. -/
  url : String := "http://localhost:8000/api/v1"
  /-- The push endpoint, without which there are neither subscriptions nor push inserts. -/
  pushUrl : Option String := none
  apiKey : Option String := none
  /-- Whether inserts are tried over the push connection first. -/
  pushInsert : Bool := false
  timeout : Duration := Duration.ofSeconds 30
  reconnect : ReconnectPolicy := {}

namespace ClientConfig

/-- The variables of the environment, as the bytes they hold. -/
abbrev Environment := String → Option (List UInt8)

/-- A variable that does not hold text counts as unset. -/
def Environment.text? (env : Environment) (name : String) : Option String :=
  (env name).bind fun bytes => Glyph.strict? (Glyph.ofBytes bytes)

def isYes (value : String) : Bool := value = "1" || value = "true" || value = "yes"

def ofEnvironment (env : Environment) : Except StreamError ClientConfig :=
  match env.text? "DATASTREAM_URL" with
  | none => .error .missingUrl
  | some url => .ok {
      url
      pushUrl := env.text? "DATASTREAM_PUSH_URL"
      apiKey := env.text? "DATASTREAM_API_KEY"
      pushInsert := (env.text? "DATASTREAM_PUSH_INSERT").any isYes }

end ClientConfig
end SeriesClient
