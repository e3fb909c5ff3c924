import SeriesClient.Stream

/-! Uses of a handle, each held as a conversation in which anything may be replied. A use that is about
the metadata puts the object that it receives in the place of what was known, and fails if it receives
none; a use of the data is lent the handle. -/

namespace SeriesClient

variable {κ α β : Type}

abbrev Replies (κ : Type) := Nat → (question : Ask κ) → question.Reply

/-- A question and the reply to it. -/
structure Exchanged (κ : Type) where
  question : Ask κ
  reply : question.Reply

namespace Exchange

/-- Holds the conversation: all that is said in it, and its outcome. -/
def hold : Exchange κ α → Replies κ → List (Exchanged κ) × α
  | done value, _ => ([], value)
  | ask question next, replies =>
    let reply := replies 0 question
    let (rest, value) := (next reply).hold fun n => replies (n + 1)
    (⟨question, reply⟩ :: rest, value)

theorem hold_map (f : α → β) (e : Exchange κ α) (replies : Replies κ) :
    (e.map f).hold replies = ((e.hold replies).1, f (e.hold replies).2) := by
  induction e generalizing replies with
  | done value => rfl
  | ask question next ih =>
    have hrest := ih (replies 0 question) fun n => replies (n + 1)
    simp only [map, bind_ask, hold] at hrest ⊢
    rw [hrest]

theorem hold_api (call : Call) (replies : Replies κ) :
    (api call).hold replies = ([⟨.api call, replies 0 (.api call)⟩], replies 0 (.api call)) := rfl

end Exchange

def members? : Except StreamError Json → Option Json.Members
  | .ok (.object members) => some members
  | _ => none

def Exchanged.members? : Exchanged κ → Option Json.Members
  | ⟨.api _, reply⟩ => SeriesClient.members? reply
  | _ => none

/-- The last object that the API replied with, whatever it was asked. -/
def received (said : List (Exchanged κ)) : Option Json.Members :=
  (said.filterMap Exchanged.members?).getLast?

theorem received_hold_api (call : Call) (replies : Replies κ) :
    received ((Exchange.api call).hold replies).1 = members? (replies 0 (.api call)) := by
  cases h : members? (replies 0 (.api call)) <;>
    simp [received, Exchange.hold_api, Exchanged.members?, h]

namespace Metadata

/-- The metadata once an object, if any, has taken the place of what was known. -/
def told (m : Metadata) (members : Option Json.Members) : Metadata :=
  { m with document := members.getD m.document }

@[simp] theorem told_none (m : Metadata) : m.told none = m := rfl

@[simp] theorem told_path (m : Metadata) (members : Option Json.Members) :
    (m.told members).path = m.path := rfl

@[simp] theorem told_document (m : Metadata) (members : Option Json.Members) :
    (m.told members).document = members.getD m.document := rfl

end Metadata

/-- What an operation leaves of some metadata to which it may have been given an object: that object
in the place of what was known, or else all as it was and an error. -/
structure Learns (m : Metadata) (given : Option Json.Members) (m' : Metadata)
    (outcome : Except StreamError Unit) : Prop where
  metadata : m' = m.told given
  ok_iff : outcome = .ok () ↔ given.isSome

theorem Metadata.learns_takeAnswer (m : Metadata) (answer : Except StreamError Json) :
    Learns m (members? answer) (m.takeAnswer answer).1 (m.takeAnswer answer).2 := by
  cases answer with
  | error cause => exact ⟨rfl, by simp [takeAnswer, Except.bind, members?]⟩
  | ok document =>
    cases document <;> exact ⟨rfl, by simp [takeAnswer, Except.bind, replace, members?]⟩

/-- An operation on something with metadata, which learn the object that the API replies with, if it
replies with one. -/
def Teaches {σ : Type} (metadata : σ → Metadata) (m : Metadata)
    (operation : Exchange κ (σ × Except StreamError Unit)) : Prop :=
  ∀ replies, Learns m (received (operation.hold replies).1)
    (metadata (operation.hold replies).2.1) (operation.hold replies).2.2

theorem Metadata.teaches_call (m : Metadata) (call : Call) :
    Teaches id m ((Exchange.api call).map m.takeAnswer : Exchange κ _) := by
  intro replies
  rw [Exchange.hold_map, received_hold_api]
  exact m.learns_takeAnswer _

theorem Stream.teaches_of_object {m : Metadata}
    {operation : Exchange κ (Metadata × Except StreamError Unit)} (h : Teaches id m operation) :
    Teaches object m (operation.map fun (m, r) => (⟨m⟩, r)) := by
  intro replies
  rw [Exchange.hold_map]
  exact h replies

theorem Stream.teaches_refresh (s : Stream) :
    Teaches object s.object (s.refresh : Changing κ) :=
  teaches_of_object (s.object.teaches_call _)

theorem Stream.teaches_set (s : Stream) (field : String) (value : Json) :
    Teaches object s.object (s.set field value : Changing κ) :=
  teaches_of_object (s.object.teaches_call _)

/-- A schema that is no schema is not sent, and nothing is learned. -/
theorem Stream.teaches_create (s : Stream) (schema : Json) :
    Teaches object s.object (s.create schema : Changing κ) := by
  intro replies
  unfold create
  split
  · exact ⟨rfl, by simp [Exchange.hold, received]⟩
  · rw [Exchange.hold_map, received_hold_api]
    exact s.object.learns_takeAnswer _

theorem Stream.opened_ok {name : String} {s : Stream} {replies : Replies κ}
    (h : ((opened name).hold replies).2 = .ok s) :
    ∃ members, received ((opened name).hold replies).1 = some members ∧ s = ⟨⟨name, members⟩⟩ := by
  have hlearns := (named name).teaches_refresh replies
  simp only [opened, Exchange.hold_map] at h ⊢
  cases houtcome : ((named name).refresh.hold replies).2.2 with
  | error cause =>
    rw [houtcome] at h
    cases h
  | ok u =>
    obtain ⟨members, hmembers⟩ := Option.isSome_iff_exists.1 (hlearns.ok_iff.1 houtcome)
    have hobject := hlearns.metadata
    rw [houtcome] at h
    rw [hmembers] at hobject
    obtain rfl := Except.ok.inj h
    exact ⟨members, hmembers, congrArg Stream.mk hobject⟩

/-- What is done with a stream. A watch registers the callback that feeds its updates. -/
inductive StreamUse (κ : Type) where
  | refresh
  | create (schema : Json)
  | setNickname (nickname : String)
  | setDownlink (on : Bool)
  | setEphemeral (on : Bool)
  | length
  | timeToIndex (time : Float)
  | insertMany (points : List Datapoint) (restamp : Bool)
  | insert (value : Json)
  | query (query : Query)
  | get (index : Int64)
  | slice (start stop : Option Int64)
  | sliceToEnd (start : Int64)
  | subscribe (callback : κ) (downlink : Bool)
  | unsubscribe (downlink : Bool)
  | watch (feed : κ) (downlink : Bool)

namespace StreamUse

def isMetadata : StreamUse κ → Bool
  | refresh | create _ | setNickname _ | setDownlink _ | setEphemeral _ => true
  | _ => false

def lend (s : Stream) (operation : Exchange κ (Except StreamError α)) : Stream.Changing κ :=
  operation.map fun result => (s, result.map fun _ => ())

def run (access : Access) (s : Stream) : StreamUse κ → Stream.Changing κ
  | refresh => s.refresh
  | create schema => s.create schema
  | setNickname nickname => s.setNickname nickname
  | setDownlink on => s.setDownlink on
  | setEphemeral on => s.setEphemeral on
  | length => lend s s.length
  | timeToIndex time => lend s (s.timeToIndex time)
  | insertMany points restamp => lend s (s.insertMany access points restamp)
  | insert value => lend s (s.insert access value)
  | query q => lend s (s.query q)
  | get index => lend s (s.get index)
  | slice start stop => lend s (s.slice start stop)
  | sliceToEnd start => lend s (s.sliceToEnd start)
  | subscribe callback downlink => lend s (s.subscribe access callback downlink)
  | unsubscribe downlink => lend s (s.unsubscribe access downlink)
  | watch feed downlink => lend s (s.watch access feed () downlink)

def given (said : List (Exchanged κ)) (use : StreamUse κ) : Option Json.Members :=
  if use.isMetadata then received said else none

theorem teaches_run {use : StreamUse κ} (h : use.isMetadata = true) (access : Access) (s : Stream) :
    Teaches Stream.object s.object (use.run access s) := by
  cases use with
  | refresh => exact s.teaches_refresh
  | create schema => exact s.teaches_create schema
  | setNickname _ | setDownlink _ | setEphemeral _ => exact s.teaches_set _ _
  | _ => cases h

theorem hold_lend (s : Stream) (operation : Exchange κ (Except StreamError α))
    (replies : Replies κ) : ((lend s operation).hold replies).2.1 = s := by
  rw [lend, Exchange.hold_map]

theorem stream_run {use : StreamUse κ} (h : use.isMetadata = false) (access : Access) (s : Stream)
    (replies : Replies κ) : ((use.run access s).hold replies).2.1 = s := by
  cases use with
  | refresh | create _ | setNickname _ | setDownlink _ | setEphemeral _ => cases h
  | _ => exact hold_lend s _ replies

/-- A use of a stream leaves its name, and of its metadata what it was given or what there was. -/
theorem object_run (use : StreamUse κ) (access : Access) (s : Stream) (replies : Replies κ) :
    ((use.run access s).hold replies).2.1.object =
      s.object.told (use.given ((use.run access s).hold replies).1) := by
  unfold given
  split
  · next h => exact (teaches_run h access s replies).metadata
  · next h => rw [stream_run (by simpa using h) access s replies, Metadata.told_none]

end StreamUse

inductive ObjectUse where
  | refresh
  | set (changes : Json)
  | replace (document : Json)

namespace ObjectUse

def run (m : Metadata) : ObjectUse → Exchange κ (Metadata × Except StreamError Unit)
  | refresh => m.refresh
  | set changes => m.set changes
  | replace document => .done (m.takeAnswer (.ok document))

def given (said : List (Exchanged κ)) : ObjectUse → Option Json.Members
  | refresh | set _ => received said
  | replace document => members? (.ok document)

theorem learns_run (use : ObjectUse) (m : Metadata) (replies : Replies κ) :
    Learns m (use.given ((use.run m).hold replies).1) ((use.run m).hold replies).2.1
      ((use.run m).hold replies).2.2 := by
  cases use with
  | refresh => exact m.teaches_call _ replies
  | set changes => exact m.teaches_call _ replies
  | replace document => exact m.learns_takeAnswer _

end ObjectUse

end SeriesClient
