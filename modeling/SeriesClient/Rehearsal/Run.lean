import SeriesClient.Rehearsal.World

/-! Runs of a script: one entry for each step, or for the whole run an error that kept the client from
being set up. -/

namespace SeriesClient.Rehearsal

/-- Why a run has no entries. -/
inductive Failure where
  | setup (error : StreamError)
  /-- A step names a handle of this kind that does not exist. -/
  | unknown (kind : String)

/-- Subscriptions that directly follow a connection come in no particular order and are shown in the
order of their channels. -/
def insertSubscription (channel : String) : List WireRecord → List WireRecord
  | .frame (.subscribe c) :: rest =>
    if channel ≤ c then .frame (.subscribe channel) :: .frame (.subscribe c) :: rest
    else .frame (.subscribe c) :: insertSubscription channel rest
  | rest => .frame (.subscribe channel) :: rest

def sortSubscriptions (after : Bool) : List WireRecord → List WireRecord
  | [] => []
  | .connected target authorization :: rest =>
    .connected target authorization :: sortSubscriptions true rest
  | .frame (.subscribe c) :: rest =>
    if after then insertSubscription c (sortSubscriptions true rest)
    else .frame (.subscribe c) :: sortSubscriptions false rest
  | record :: rest => record :: sortSubscriptions false rest

def sortTexts (texts : List String) : List String := texts.mergeSort (· ≤ ·)

abbrev Progress := Except Failure (World × Outcome)

namespace World

def stream? (w : World) (handle : String) : Except Failure Stream :=
  match find? handle w.streams with
  | some s => .ok s
  | none => .error (.unknown "stream")

def object? (w : World) (handle : String) : Except Failure Metadata :=
  match find? handle w.objects with
  | some m => .ok m
  | none => .error (.unknown "object")

def putStream (w : World) (handle : String) (s : Stream) : World :=
  { w with streams := put handle s w.streams }

def putObject (w : World) (handle : String) (m : Metadata) : World :=
  { w with objects := put handle m w.objects }

def ofTexts (text : Option String) : Outcome :=
  match text with
  | some t => .text t
  | none => .nothing

def points (result : Except StreamError (List Datapoint)) : Outcome :=
  .ofExcept (fun points => .document (Datapoint.listToJson points)) result

def change (w : World) (handle : String) (operation : Stream.Changing Listener) :
    World × Outcome :=
  let (w, s, result) := w.converse operation
  (w.putStream handle s, .ofUnit result)

def report {α : Type} (w : World) (f : α → Outcome)
    (operation : Exchange Listener (Except StreamError α)) : World × Outcome :=
  let (w, result) := w.converse operation
  (w, .ofExcept f result)

def onStream (w : World) (handle : String) (s : Stream) : StreamStep → World × Outcome
  | .clone copy => (w.putStream copy s, .done)
  | .name => (w, .text s.name)
  | .metadata => (w, .document (.object s.object.document))
  | .nickname => (w, ofTexts s.nickname?)
  | .downlink => (w, .flag s.downlink)
  | .ephemeral => (w, .flag s.ephemeral)
  | .schema => (w, .ofExcept .document s.schema)
  | .refresh => w.change handle s.refresh
  | .create schema => w.change handle (s.create schema)
  | .setNickname value => w.change handle (s.setNickname value)
  | .setDownlink value => w.change handle (s.setDownlink value)
  | .setEphemeral value => w.change handle (s.setEphemeral value)
  | .length => w.report .count s.length
  | .timeToIndex t => w.report .count (s.timeToIndex t)
  | .debug => (w, .text s.debugText)
  | .insertMany points restamp =>
    w.report (fun _ => .done) (s.insertMany w.access points restamp)
  | .insert value => w.report (fun _ => .done) (s.insert w.access value)
  | .query source =>
    match source.query with
    | .error e => (w, .failure e)
    | .ok q =>
      let (w, result) := w.converse (s.query q)
      (w, points result)
  | .get index => w.report (fun p => .document p.toJson) (s.get index)
  | .slice start stop =>
    let (w, result) := w.converse (s.slice start stop)
    (w, points result)
  | .sliceToEnd start =>
    let (w, result) := w.converse (s.sliceToEnd start)
    (w, points result)
  | .subscribe label downlink =>
    w.report (fun _ => .done) (s.subscribe w.access (.labelled label) downlink)
  | .unsubscribe downlink => w.report (fun _ => .done) (s.unsubscribe w.access downlink)
  | .watch downlink watch =>
    let id := w.inboxes.length
    let (w, result) := { w with inboxes := w.inboxes ++ [({} : Push.Inbox)] }.converse
      (s.watch w.access (.watch id) id downlink)
    match result with
    | .ok id => ({ w with watches := put watch id w.watches }, .done)
    | .error e => (w, .failure e)

def onObject (w : World) (handle : String) (m : Metadata) : ObjectStep → World × Outcome
  | .path => (w, .text m.path)
  | .data => (w, .document (.object m.document))
  | .field name =>
    (w, match m.field? name with
      | some value => .document value
      | none => .nothing)
  | .refresh =>
    let (w, m, result) := w.converse m.refresh
    (w.putObject handle m, .ofUnit result)
  | .set changes =>
    let (w, m, result) := w.converse (m.set changes)
    (w.putObject handle m, .ofUnit result)
  | .replace document =>
    let (m, result) := m.takeAnswer (.ok document)
    (w.putObject handle m, .ofUnit result)
  | .get => w.report .document (Exchange.api (.get m.path []))

/-- What a stream of updates holds. It has ended once nobody is registered to feed it. -/
def drain (w : World) (id : Nat) : World × Outcome :=
  let inbox := (w.inboxes[id]?).getD {}
  let fed := w.registry.any (·.2 == .watch id)
  ({ w with inboxes := w.inboxes.set id { inbox with waiting := [] } },
    .drained inbox.waiting (!fed))

def deliver (w : World) (channel : String) (update : Update) : World × Outcome :=
  match w.registry.find? channel with
  | some listener => (w.notify listener update, .done)
  | none => (w, .text "no subscriber")

def isAnswered (effects : List (Push.Effect Listener)) : Bool :=
  effects.any fun
    | .answered _ _ => true
    | _ => false

def onPush (w : World) (side : PushSide) : PushStep → World × Outcome
  | .state => (w, .text (stateText side.client.state))
  | .url => (w, .text side.url)
  | .channels => (w, .texts (sortTexts side.client.registry.channels))
  | .subscribe channel label =>
    let (w, result) := w.subscribe channel (.labelled label)
    (w, .ofUnit result)
  | .unsubscribe channel =>
    let (w, result) := w.unsubscribe channel
    (w, .ofUnit result)
  | .insert channel points =>
    let (w, sent) := w.pushInsert channel points
    (w, .flag sent)
  | .insertAbandoned channel points =>
    let ticket := side.client.tickets
    let (w, first) := w.pushStep (.callInsert channel points)
    let (w, second) := w.pushStep (.enqueue 0)
    if isAnswered (first ++ second) then (w, .flag false)
    else ((w.pushStep (.giveUp ticket)).1, .nothing)
  | .disconnect => ((w.pushCall .callDisconnect).1, .done)

def isServing (side : PushSide) : Bool :=
  match side.client.phase with
  | .serving _ => true
  | _ => false

def onServer (w : World) (side : PushSide) (step : ServerStep) : World × Outcome :=
  if isServing side then
    match step with
    | .send bytes => ((w.pushStep (.receive (.data bytes))).1, .done)
    | .ping payload => ((w.pushStep (.receive (.ping payload))).1, .pong)
    | .hangUp => ((w.pushStep .lost).1, .done)
  else (w, .text "not connected")

def release (w : World) : World × Outcome :=
  match w.live with
  | some side =>
    if side.holding then
      let (w, event) := w.welcome side
      ((w.pushStep event).1, .done)
    else (w, .text "not holding")
  | none => (w, .text "not holding")

/-- Lets go of every handle, and with the last one of the push connection. -/
def dropAll (w : World) : World × Outcome :=
  let w := { w with streams := [], objects := [], watches := [] }
  match w.live with
  | none => (w, .done)
  | some _ =>
    let w := (w.pushStep .dropHandles).1
    let w := w.settle.1
    ({ w with live := none, wire := [] }, .closed (sortSubscriptions false w.wire))

/-- The state that the client tells; one without a push connection of its own tells none. -/
def clientState (w : World) : Outcome :=
  match w.owned, w.live with
  | true, some side => .text (stateText side.client.state)
  | _, _ => .nothing

def act (w : World) : Action → Progress
  | .newStream name handle => .ok (w.putStream handle (Stream.named name), .done)
  | .openStream name handle =>
    let (w, result) := w.converse (Stream.opened name)
    match result with
    | .ok s => .ok (w.putStream handle s, .done)
    | .error e => .ok (w, .failure e)
  | .onStream handle step => do
    let s ← w.stream? handle
    pure (w.onStream handle s step)
  | .newObject path handle => .ok (w.putObject handle ⟨path, []⟩, .done)
  | .onObject handle step => do
    let m ← w.object? handle
    pure (w.onObject handle m step)
  | .drain handle =>
    match find? handle w.watches with
    | some id => .ok (w.drain id)
    | none => .error (.unknown "watch")
  | .deliver channel stream points => .ok (w.deliver channel ⟨stream, points⟩)
  | .call call => .ok (w.report .document (Exchange.api call))
  | .pushInsertEnabled => .ok (w, .flag w.access.pushInserts)
  | .hasPush => .ok (w, .flag w.hasPush)
  | .baseUrl =>
    match w.transport with
    | .http api => .ok (w, .text api.base.text)
    | .inMemory => .error (.unknown "base_url")
  | .clientState => .ok (w, clientState w)
  | .clientDisconnect =>
    if w.owned then .ok ((w.pushCall .callDisconnect).1, .done) else .ok (w, .done)
  | .dropAll => .ok w.dropAll
  | .onPush step =>
    match w.live with
    | some side => .ok (w.onPush side step)
    | none => .error (.unknown "push")
  | .onServer step =>
    match w.live with
    | some side => .ok (w.onServer side step)
    | none => .ok (w, .text "not connected")
  | .release => .ok w.release

/-- What came of the step under way, and the world ready for the next one. -/
def close (w : World) (outcome : Outcome) : World × Entry :=
  ({ w with replies := [], calls := [], wire := [], updates := [] },
    { outcome
      calls := w.calls
      wire := sortSubscriptions false w.wire
      updates := w.updates
      state := w.live.map (·.client.state) })

def runSteps (w : World) : List Step → Except Failure (List Entry)
  | [] => .ok []
  | step :: rest => do
    let (w, outcome) ← { w with replies := step.replies }.act step.action
    let (w, entry) := (w.settle.1).close outcome
    let entries ← runSteps w rest
    pure (entry :: entries)

end World

namespace Script

def pushSide (script : Script) : Option PushSide :=
  script.config.pushUrl.map fun url =>
    { client := Push.Client.connect script.config.reconnect
      url
      apiKey := script.config.apiKey
      handshakes := script.handshakes }

def api (script : Script) : Except Failure Transport :=
  match Http.Api.ofConfig script.config with
  | .ok api => .ok (.http api)
  | .error e => .error (.setup e)

def world (script : Script) : Except Failure World := do
  let reachable := script.reachable
  let streams := [("s", Stream.named script.streamName)]
  match script.setting with
  | .inMemory =>
    pure {
      reachable, streams
      transport := .inMemory
      prefersPush := script.config.pushInsert
      scripted := script.push }
  | .overHttp => pure { reachable, streams, transport := ← script.api, scripted := script.push }
  | .configured =>
    pure { reachable, streams, transport := ← script.api, live := script.pushSide, owned := true }
  | .pushClient =>
    match script.pushSide with
    | none => throw (.unknown "push_url")
    | some side => pure { reachable, streams, transport := ← script.api, live := some side }

/-- Runs the script. A live push connection makes itself felt before the first step. -/
def run (script : Script) : Except Failure (List Entry) := do
  let w ← script.world
  if w.live.isSome then
    let (w, entry) := (w.settle.1).close (.text "start")
    let entries ← w.runSteps script.steps
    pure (entry :: entries)
  else w.runSteps script.steps

end Script
end SeriesClient.Rehearsal
