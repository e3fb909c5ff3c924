import SeriesClient.Http.Api
import SeriesClient.Push.Client
import SeriesClient.Push.Inbox
import SeriesClient.Stream

/-! Scripts for a rehearsal: a client does one thing after another against peers whose behaviour is
written down beforehand, and everything the peers see is kept. -/

namespace SeriesClient.Rehearsal

/-- Who listens on a channel: a callback with a label, or a stream of updates. -/
inductive Listener where
  | labelled (label : String)
  | watch (id : Nat)
  deriving DecidableEq

inductive Reply where
  | document (value : Json)
  | failure (error : StreamError)
  | response (response : Http.Response)
  /-- No answer, or not all of one. -/
  | broken

/-- What becomes of a push connection that the client opens. -/
inductive Handshake where
  | accept
  | drop
  | reject
  | hold
  deriving DecidableEq

/-- A push connection that does as told and keeps callbacks. -/
structure ScriptedPush where
  /-- Answers to inserts; then all are taken. -/
  inserts : List Bool
  /-- Whether subscribing and unsubscribing works; then it always does. -/
  subscriptions : List Bool
  registry : Push.Registry Listener := []

inductive Setting where
  /-- A transport in memory that answers with documents. -/
  | inMemory
  /-- Requests over HTTP and a scripted push connection, if any. -/
  | overHttp
  /-- What the configuration describes. -/
  | configured
  /-- A push client, used directly and beside requests over HTTP. -/
  | pushClient
  deriving DecidableEq

/-- Where a query comes from: one that is ready, or settings that may conflict. -/
inductive QuerySource where
  | ready (query : Query)
  | built (settings : List Query.Builder.Setting) (transform : Option String)

def QuerySource.query : QuerySource → Except StreamError Query
  | ready q => .ok q
  | built settings transform =>
    (({} : Query.Builder).setAll settings).build.map fun q =>
      match transform with
      | some t => q.withTransform t
      | none => q

inductive StreamStep where
  | clone (handle : String)
  | name
  | metadata
  | nickname
  | downlink
  | ephemeral
  | schema
  | refresh
  | create (schema : Json)
  | setNickname (value : String)
  | setDownlink (value : Bool)
  | setEphemeral (value : Bool)
  | length
  | timeToIndex (time : Float)
  | debug
  | insertMany (points : List Datapoint) (restamp : Bool)
  | insert (value : Json)
  | query (source : QuerySource)
  | get (index : Int64)
  | slice (start stop : Option Int64)
  | sliceToEnd (start : Int64)
  | subscribe (label : String) (downlink : Bool)
  | unsubscribe (downlink : Bool)
  | watch (downlink : Bool) (handle : String)

inductive ObjectStep where
  | path
  | data
  | field (name : String)
  | refresh
  | set (changes : Json)
  | replace (document : Json)
  | get

inductive PushStep where
  | state
  | url
  | channels
  | subscribe (channel label : String)
  | unsubscribe (channel : String)
  | insert (channel : String) (points : List Datapoint)
  /-- An insert that nobody waits for by the time the loop takes it. -/
  | insertAbandoned (channel : String) (points : List Datapoint)
  | disconnect

inductive ServerStep where
  | send (bytes : List UInt8)
  | ping (payload : List UInt8)
  | hangUp

inductive Action where
  | newStream (name handle : String)
  | openStream (name handle : String)
  | onStream (handle : String) (step : StreamStep)
  | newObject (path handle : String)
  | onObject (handle : String) (step : ObjectStep)
  | drain (handle : String)
  | deliver (channel stream : String) (points : List Datapoint)
  | call (call : Call)
  | pushInsertEnabled
  | hasPush
  | baseUrl
  | clientState
  | clientDisconnect
  | dropAll
  | onPush (step : PushStep)
  | onServer (step : ServerStep)
  | release

structure Step where
  action : Action
  /-- Answers to the requests of this step, in order. -/
  replies : List Reply

structure Script where
  setting : Setting
  /-- Whether connections to the peers can be made at all. -/
  reachable : Bool
  streamName : String
  config : ClientConfig
  push : Option ScriptedPush
  handshakes : List Handshake
  steps : List Step

inductive CallRecord where
  | api (call : Call)
  | request (request : Http.Request)
  /-- A tunnel asked for by a request that needs one. -/
  | tunnel (host : String)
  | pushInsert (channel : String) (points : List Datapoint)
  | pushSubscribe (channel : String)
  | pushUnsubscribe (channel : String)

inductive WireRecord where
  | dropped
  | rejected
  | connected (target : String) (authorization : List String)
  | frame (message : Message)

inductive Outcome where
  | done
  | nothing
  | text (value : String)
  | texts (values : List String)
  | flag (value : Bool)
  | count (value : Nat)
  | document (value : Json)
  | failure (error : StreamError)
  | drained (updates : List Update) (ended : Bool)
  | pong
  | closed (wire : List WireRecord)

def stateText : Push.ConnectionState → String
  | .disconnected => "Disconnected"
  | .connecting => "Connecting"
  | .connected => "Connected"
  | .reconnecting attempt => "Reconnecting(" ++ Json.countText attempt ++ ")"
  | .error => "Error"

/-- What came of a step. -/
structure Entry where
  outcome : Outcome
  calls : List CallRecord := []
  wire : List WireRecord := []
  /-- The labelled callbacks that ran. -/
  updates : List (String × Update) := []
  state : Option Push.ConnectionState := none

def Outcome.ofUnit : Except StreamError Unit → Outcome
  | .ok () => done
  | .error e => failure e

def Outcome.ofExcept {α : Type} (f : α → Outcome) : Except StreamError α → Outcome
  | .ok x => f x
  | .error e => failure e

end SeriesClient.Rehearsal
