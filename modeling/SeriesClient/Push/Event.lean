import SeriesClient.Config
import SeriesClient.Message

/-! What happens to a push client, and what it brings about. -/

namespace SeriesClient.Push

inductive ConnectionState where
  | disconnected
  | connecting
  | connected
  | reconnecting (attempt : Nat)
  | error
  deriving DecidableEq

/-- A command to the connection loop. The ticket of an insert tells whose answer is whose. -/
inductive Command where
  | subscribe (channel : String)
  | unsubscribe (channel : String)
  | insert (ticket : Nat) (channel : String) (points : List Datapoint)
  | disconnect

inductive Frame where
  | data (bytes : List UInt8)
  | ping (payload : List UInt8)
  | other

inductive Event (κ : Type) where
  | callSubscribe (channel : String) (callback : κ)
  | callUnsubscribe (channel : String)
  | callInsert (channel : String) (points : List Datapoint)
  | callDisconnect
  /-- The second step of the call that is `index`-th in line. -/
  | enqueue (index : Nat)
  /-- The caller of a queued insert stops waiting for its answer. -/
  | giveUp (ticket : Nat)
  | dropHandles
  | start
  | opened
  | refused
  /-- Looks up what is registered, to announce it on the new socket. -/
  | recall
  /-- Announces a channel; `taken` says whether the socket took the frame. -/
  | announce (channel : String) (taken : Bool)
  | serve
  | handle (taken : Bool)
  | receive (frame : Frame)
  /-- The clock asks for a ping of the server. -/
  | tick (taken : Bool)
  | lost
  | elapsed
  | drained

inductive Effect (κ : Type) where
  /-- The client tells this state from now on. -/
  | entered (state : ConnectionState)
  | dialed
  | waits (delay : Duration)
  /-- A channel was subscribed to or unsubscribed from on the socket. -/
  | sent (message : Message)
  /-- The points of an insert went out on the socket. -/
  | forwarded (ticket : Nat) (channel : String) (points : List Datapoint)
  | pong (payload : List UInt8)
  | pinged
  | ran (callback : κ) (update : Update)
  | answered (ticket : Nat) (inserted : Bool)
  | queued (command : Command)
  /-- The loop being gone, the command of a call went nowhere. -/
  | declined (command : Command)
  | handled (command : Command)

end SeriesClient.Push
