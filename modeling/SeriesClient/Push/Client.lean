import SeriesClient.Push.Event
import SeriesClient.Push.Registry
import SeriesClient.Steps

/-! The push client as a transition system. Callers register callbacks and put commands into a queue;
the connection loop dials, announces what is registered, handles commands, passes on what the server
pushes, and dials again after a wait when the connection is lost. A call is two steps, one on the
registry or the announced state and one on the queue, and others may come between them. -/

namespace SeriesClient.Push

/-- Where the connection loop stands. -/
inductive Phase where
  | starting
  | dialing
  | opening
  /-- The socket is up; `todo` is still to be announced on it, `active` has been. -/
  | announcing (todo active : List String)
  | serving (active : List String)
  | waiting (delay : Duration)
  /-- The loop is gone, and with it the queue. -/
  | ended
  deriving DecidableEq

structure Client (κ : Type) where
  policy : ReconnectPolicy
  registry : Registry κ := []
  queue : List Command := []
  phase : Phase := .starting
  state : ConnectionState := .disconnected
  /-- How many times the loop has waited since it was last connected. -/
  attempt : Nat := 0
  /-- Commands of calls that have done their first step. -/
  calls : List Command := []
  /-- The ticket of the next insert. -/
  tickets : Nat := 0
  /-- Inserts that nobody waits for any more. -/
  abandoned : List Nat := []
  /-- Whether a handle is left that could put in a command. -/
  held : Bool := true

namespace Client

variable {κ : Type}

/-- The queue takes no more than this many commands; a caller waits for room. -/
def capacity : Nat := 100

def connect (policy : ReconnectPolicy) : Client κ := { policy }

/-- Whether someone waits for the answer to a queued insert. -/
def awaits (s : Client κ) (ticket : Nat) : Bool :=
  !s.abandoned.contains ticket && s.queue.any fun
    | .insert t _ _ => t == ticket
    | _ => false

/-- Whether a call is under way, which holds a handle as long as it is. -/
def isCalled (s : Client κ) : Bool :=
  !s.calls.isEmpty || s.queue.any fun
    | .insert ticket _ _ => !s.abandoned.contains ticket
    | _ => false

/-- The second step of a call. Without a loop to take the command, a registration is undone. -/
def putIn (s : Client κ) (command : Command) : Option (Client κ × List (Effect κ)) :=
  if s.phase = .ended then
    match command with
    | .subscribe c => some ({ s with registry := s.registry.remove c }, [.declined (.subscribe c)])
    | .insert ticket c points =>
      some (s, [.declined (.insert ticket c points), .answered ticket false])
    | other => some (s, [.declined other])
  else if s.queue.length < capacity then
    some ({ s with queue := s.queue ++ [command] }, [.queued command])
  else none

/-- An insert that is dropped from the queue is answered if anyone waits for it. -/
def refusal (abandoned : List Nat) : Command → List (Effect κ)
  | .insert ticket _ _ => if abandoned.contains ticket then [] else [.answered ticket false]
  | _ => []

/-- The loop ends and drops the queue. -/
def stop (s : Client κ) : Client κ × List (Effect κ) :=
  ({ s with phase := .ended, queue := [] }, s.queue.flatMap (refusal s.abandoned))

def stopIn (s : Client κ) (state : ConnectionState) : Client κ × List (Effect κ) :=
  let (s, effects) := { s with state }.stop
  (s, .entered state :: effects)

/-- After a failed attempt or a lost connection: another attempt after a wait, or the end. -/
def retry (s : Client κ) : Client κ × List (Effect κ) :=
  if !s.policy.enabled || s.policy.maxAttempts ≤ s.attempt then s.stopIn .error
  else
    let delay := s.policy.delay s.attempt
    ({ s with
        phase := .waiting delay
        state := .reconnecting s.attempt
        attempt := s.attempt + 1 },
      [.entered (.reconnecting s.attempt), .waits delay])

def dial (s : Client κ) : Client κ × List (Effect κ) :=
  ({ s with phase := .dialing, state := .connecting }, [.entered .connecting, .dialed])

/-- Handles a command on a socket on which `active` has been announced. -/
def perform (s : Client κ) (active : List String) (taken : Bool) :
    Command → Client κ × List (Effect κ)
  | .subscribe c =>
    if active.contains c then (s, [])
    else ({ s with phase := .serving (c :: active) }, if taken then [.sent (.subscribe c)] else [])
  | .unsubscribe c =>
    ({ s with phase := .serving (active.filter (· != c)) },
      if taken then [.sent (.unsubscribe c)] else [])
  | .insert ticket c points =>
    -- Whoever stopped waiting has written the points by other means.
    if s.abandoned.contains ticket then (s, [])
    else if taken then (s, [.forwarded ticket c points, .answered ticket true])
    else (s, [.answered ticket false])
  | .disconnect => s.stopIn .disconnected

/-- The callback for what a frame holds, if it holds an update for a registered channel. -/
def dispatch (r : Registry κ) (bytes : List UInt8) : List (Effect κ) :=
  match Update.decode (Glyph.ofBytes bytes) with
  | .error _ => []
  | .ok update =>
    match r.find? update.channel with
    | none => []
    | some callback => [.ran callback update]

def receive (s : Client κ) : Frame → List (Effect κ)
  | .data bytes => dispatch s.registry bytes
  | .ping payload => [.pong payload]
  | .other => []

/-- Begins to serve the socket. A clock that would have to tick without a pause brings the loop down,
and the client goes on telling the state it was in. -/
def serve (s : Client κ) (active : List String) : Client κ × List (Effect κ) :=
  if s.policy.pingInterval.total = 0 then s.stop
  else ({ s with phase := .serving active }, [])

/-- One step, with what it brings about; `none` where the step cannot happen. -/
def step (s : Client κ) : Event κ → Option (Client κ × List (Effect κ))
  | .callSubscribe c k =>
    if s.held then
      some ({ s with registry := s.registry.add c k, calls := s.calls ++ [.subscribe c] }, [])
    else none
  | .callUnsubscribe c =>
    if s.held then
      some ({ s with registry := s.registry.remove c, calls := s.calls ++ [.unsubscribe c] }, [])
    else none
  | .callInsert c points =>
    if s.held then
      let ticket := s.tickets
      let s := { s with tickets := ticket + 1 }
      if s.state = .connected then
        some ({ s with calls := s.calls ++ [.insert ticket c points] }, [])
      else some (s, [.answered ticket false])
    else none
  | .callDisconnect =>
    if s.held then some ({ s with calls := s.calls ++ [.disconnect] }, []) else none
  | .enqueue index =>
    match s.calls[index]? with
    | none => none
    | some command => { s with calls := s.calls.eraseIdx index }.putIn command
  | .giveUp ticket =>
    if s.awaits ticket then
      some ({ s with abandoned := ticket :: s.abandoned }, [.answered ticket false])
    else none
  | .dropHandles => if s.held && !s.isCalled then some ({ s with held := false }, []) else none
  | .start => if s.phase = .starting then some s.dial else none
  | .opened =>
    if s.phase = .dialing then
      some ({ s with phase := .opening, state := .connected, attempt := 0 }, [.entered .connected])
    else none
  | .refused => if s.phase = .dialing then some s.retry else none
  | .recall =>
    if s.phase = .opening then some ({ s with phase := .announcing s.registry.channels [] }, [])
    else none
  | .announce c taken =>
    match s.phase with
    | .announcing todo active =>
      if todo.contains c then
        some ({ s with phase := .announcing (todo.erase c) (c :: active) },
          if taken then [.sent (.subscribe c)] else [])
      else none
    | _ => none
  | .serve =>
    match s.phase with
    | .announcing [] active => some (s.serve active)
    | _ => none
  | .handle taken =>
    match s.phase, s.queue with
    | .serving active, command :: rest =>
      let (s, effects) := { s with queue := rest }.perform active taken command
      some (s, .handled command :: effects)
    | _, _ => none
  | .receive frame =>
    match s.phase with
    | .serving _ => some (s, s.receive frame)
    | _ => none
  | .tick taken =>
    match s.phase with
    | .serving _ => some (s, if taken then [.pinged] else [])
    | _ => none
  | .lost =>
    match s.phase with
    | .serving _ => some s.retry
    | _ => none
  | .elapsed =>
    match s.phase with
    | .waiting _ => some s.dial
    | _ => none
  | .drained =>
    match s.phase with
    | .serving _ => if s.queue.isEmpty && !s.held then some s.stop else none
    | _ => none

def run (s : Client κ) (es : List (Event κ)) : Option (Client κ × List (Effect κ)) :=
  runSteps step s es

end Client
end SeriesClient.Push
