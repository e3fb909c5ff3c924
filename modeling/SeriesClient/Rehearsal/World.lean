import SeriesClient.Rehearsal.Script

/-! The world of a rehearsal: the client's handles, the scripted peers, and what they have seen during
the step under way. -/

namespace SeriesClient.Rehearsal

inductive Transport where
  | inMemory
  | http (api : Http.Api)

/-- A push client and the server it talks to. -/
structure PushSide where
  client : Push.Client Listener
  url : String
  apiKey : Option String
  handshakes : List Handshake
  /-- Whether a handshake is waiting to be let through. -/
  holding : Bool := false

structure World where
  /-- Whether connections to the peers can be made at all. -/
  reachable : Bool
  transport : Transport
  /-- Whether inserts through the transport in memory are to go over the push connection first. -/
  prefersPush : Bool := false
  scripted : Option ScriptedPush := none
  live : Option PushSide := none
  /-- Whether the client itself owns the live push connection. -/
  owned : Bool := false
  streams : List (String × Stream)
  objects : List (String × Metadata) := []
  watches : List (String × Nat) := []
  /-- What the streams of updates have yet to yield, each under the number of its watch. -/
  inboxes : List Push.Inbox := []
  replies : List Reply := []
  calls : List CallRecord := []
  wire : List WireRecord := []
  updates : List (String × Update) := []

def find? {α : Type} (name : String) (entries : List (String × α)) : Option α :=
  (entries.find? (·.1 == name)).map (·.2)

def put {α : Type} (name : String) (value : α) (entries : List (String × α)) : List (String × α) :=
  (name, value) :: entries.filter (·.1 != name)

namespace World

def hasPush (w : World) : Bool := w.scripted.isSome || w.live.isSome

/-- The transport in memory wants push inserts whether or not there is a push connection. -/
def access (w : World) : Access :=
  match w.transport with
  | .inMemory => ⟨w.prefersPush, w.hasPush⟩
  | .http api => ⟨api.pushInsert && w.hasPush, w.hasPush⟩

def recordCall (w : World) (record : CallRecord) : World := { w with calls := w.calls ++ [record] }

def recordWire (w : World) (record : WireRecord) : World := { w with wire := w.wire ++ [record] }

def nextReply (w : World) : Option Reply × World :=
  match w.replies with
  | [] => (none, w)
  | r :: rest => (some r, { w with replies := rest })

def registry (w : World) : Push.Registry Listener :=
  match w.live, w.scripted with
  | some side, _ => side.client.registry
  | none, some push => push.registry
  | none, none => []

def notify (w : World) (listener : Listener) (update : Update) : World :=
  match listener with
  | .labelled label => { w with updates := w.updates ++ [(label, update)] }
  | .watch id => { w with inboxes := w.inboxes.modify id (·.put update) }

def tunnelTo (url : Url) : String :=
  let host := (url.host.map Url.Host.chars).getD []
  let port := url.port.getD ((Url.defaultPort? url.scheme).getD 443)
  String.ofList (host ++ ':' :: Decimal.digitChars port)

/-- Asks the API. Without a way to the server every request that can be made fails unseen. -/
def ask (w : World) (call : Call) : World × Except StreamError Json :=
  match w.transport with
  | .inMemory =>
    let (reply, w) := (w.recordCall (.api call)).nextReply
    match reply with
    | some (.document value) => (w, .ok value)
    | some (.failure e) => (w, .error e)
    | some _ => (w, .error .http)
    | none => (w, .ok .null)
  | .http api =>
    match api.request call with
    | .error e => (w, .error e)
    | .ok request =>
      if !w.reachable then (w, .error .http)
      else if request.url.scheme = "https".toList then
        (w.recordCall (.tunnel (tunnelTo request.url)), .error .http)
      else
        let (reply, w) := (w.recordCall (.request request)).nextReply
        match reply with
        | none => (w, (Http.Response.mk 200 []).read)
        | some (.response response) => (w, response.read)
        | some _ => (w, .error .http)

def react (w : World) (effect : Push.Effect Listener) : World :=
  match effect with
  | .sent message => w.recordWire (.frame message)
  | .forwarded _ channel points => w.recordWire (.frame (.insert channel points))
  | .ran listener update => w.notify listener update
  | _ => w

/-- Lets the push client take a step and keeps what comes of it. -/
def pushStep (w : World) (event : Push.Event Listener) : World × List (Push.Effect Listener) :=
  match w.live with
  | none => (w, [])
  | some side =>
    match side.client.step event with
    | none => (w, [])
    | some (client, effects) =>
      (effects.foldl react { w with live := some { side with client } }, effects)

/-- What an endpoint without encryption opens with. -/
def schemeMark : List Char := "ws://".toList

/-- The path and the query of an endpoint, as written after its host. -/
def target (url : String) : String :=
  let rest := (url.toList.drop schemeMark.length).dropWhile
    fun c => c != '/' && !Url.endsPath c
  match rest.takeWhile (· != '#') with
  | '/' :: rest => String.ofList ('/' :: rest)
  | rest => String.ofList ('/' :: rest)

/-- Whether a handshake with the endpoint can be asked for at all. -/
def canDial (side : PushSide) : Bool :=
  schemeMark.isPrefixOf side.url.toList &&
    (side.apiKey.all fun key => Http.isHeaderValue (Http.bearerHeader key))

def least : List String → Option String
  | [] => none
  | c :: cs => match least cs with
    | none => some c
    | some d => some (if c ≤ d then c else d)

def welcome (w : World) (side : PushSide) : World × Push.Event Listener :=
  let authorization := (side.apiKey.map Http.bearerHeader).toList
  ({ w with live := some { side with holding := false } }.recordWire
    (.connected (target side.url) authorization), .opened)

/-- What the push client can do by itself, if anything, with the server doing as told. Waits of a
second and more are not sat out. -/
def nextEvent (w : World) : Option (World × Push.Event Listener) :=
  match w.live with
  | none => none
  | some side =>
    match side.client.phase with
    | .starting => some (w, .start)
    | .dialing =>
      if side.holding then none
      else if !w.reachable || !canDial side then some (w, .refused)
      else
        match side.handshakes with
        | [] => some (w.welcome side)
        | h :: rest =>
          let side := { side with handshakes := rest }
          let next := { w with live := some side }
          match h with
          | .drop => some (next.recordWire .dropped, .refused)
          | .reject => some (next.recordWire .rejected, .refused)
          | .accept | .hold => some (w.welcome side)
    | .opening => some (w, .recall)
    | .announcing todo _ =>
      match least todo with
      | none => some (w, .serve)
      | some c => some (w, .announce c true)
    | .serving _ =>
      if !side.client.queue.isEmpty then some (w, .handle true)
      else if !side.client.held then some (w, .drained)
      else none
    | .waiting delay => if delay.seconds = 0 then some (w, .elapsed) else none
    | .ended => none

def isHeld (w : World) : Bool :=
  match w.live with
  | none => false
  | some side =>
    side.client.phase = .dialing && !side.holding && w.reachable && canDial side &&
      side.handshakes.head? == some .hold

/-- The handshake under way is held from now on. -/
def hold (w : World) : World :=
  { w with live := w.live.map fun side =>
      { side with holding := true, handshakes := side.handshakes.tail } }

def settleWithin : Nat → World → World × List (Push.Effect Listener)
  | 0, w => (w, [])
  | fuel + 1, w =>
    let w := if w.isHeld then w.hold else w
    match w.nextEvent with
    | none => (w, [])
    | some (w, event) =>
      let (w, first) := w.pushStep event
      let (w, rest) := settleWithin fuel w
      (w, first ++ rest)

/-- More than the client can do before it stops: two steps for each attempt, one for each channel and
each command, and the handshakes of the script. -/
def patience (w : World) : Nat :=
  match w.live with
  | none => 0
  | some side =>
    let c := side.client
    (side.handshakes.length + 2) *
      (4 * (c.policy.maxAttempts + 2) + 2 * (c.registry.length + c.queue.length) + 8)

/-- Lets the push client do all it can by itself. -/
def settle (w : World) : World × List (Push.Effect Listener) := settleWithin w.patience w

/-- A call to the push client, both its steps, and the quiet after it. -/
def pushCall (w : World) (event : Push.Event Listener) : World × List (Push.Effect Listener) :=
  let (w, first) := w.pushStep event
  let (w, second) := w.pushStep (.enqueue 0)
  let (w, rest) := w.settle
  (w, first ++ second ++ rest)

def inserted (effects : List (Push.Effect Listener)) : Bool :=
  effects.any fun
    | .answered _ sent => sent
    | _ => false

def accepted (effects : List (Push.Effect Listener)) : Except StreamError Unit :=
  let refused := effects.any fun
    | .declined _ => true
    | _ => false
  if refused then .error .connectionClosed else .ok ()

def takeVerdict (push : ScriptedPush) : Bool × ScriptedPush :=
  match push.subscriptions with
  | [] => (true, push)
  | v :: rest => (v, { push with subscriptions := rest })

def pushInsert (w : World) (channel : String) (points : List Datapoint) : World × Bool :=
  match w.live, w.scripted with
  | some _, _ =>
    let (w, effects) := w.pushCall (.callInsert channel points)
    (w, inserted effects)
  | none, some push =>
    let (sent, rest) := match push.inserts with
      | [] => (true, [])
      | v :: rest => (v, rest)
    ({ w with scripted := some { push with inserts := rest } }.recordCall
      (.pushInsert channel points), sent)
  | none, none => (w, false)

def subscribe (w : World) (channel : String) (listener : Listener) :
    World × Except StreamError Unit :=
  match w.live, w.scripted with
  | some _, _ =>
    let (w, effects) := w.pushCall (.callSubscribe channel listener)
    (w, accepted effects)
  | none, some push =>
    let (ok, push) := takeVerdict push
    let w := w.recordCall (.pushSubscribe channel)
    if ok then
      let push := { push with registry := push.registry.add channel listener }
      ({ w with scripted := some push }, .ok ())
    else ({ w with scripted := some push }, .error .connectionClosed)
  | none, none => (w, .error .pushUnavailable)

def unsubscribe (w : World) (channel : String) : World × Except StreamError Unit :=
  match w.live, w.scripted with
  | some _, _ =>
    let (w, effects) := w.pushCall (.callUnsubscribe channel)
    (w, accepted effects)
  | none, some push =>
    let (ok, push) := takeVerdict push
    let w := w.recordCall (.pushUnsubscribe channel)
    if ok then
      let push := { push with registry := push.registry.remove channel }
      ({ w with scripted := some push }, .ok ())
    else ({ w with scripted := some push }, .error .connectionClosed)
  | none, none => (w, .error .pushUnavailable)

def answer (w : World) : (question : Ask Listener) → World × question.Reply
  | .api call => w.ask call
  | .pushInsert channel points => w.pushInsert channel points
  | .subscribe channel listener => w.subscribe channel listener
  | .unsubscribe channel => w.unsubscribe channel

def converse {α : Type} (w : World) : Exchange Listener α → World × α
  | .done value => (w, value)
  | .ask question next =>
    let (w, reply) := w.answer question
    w.converse (next reply)

end World
end SeriesClient.Rehearsal
