import SeriesClient.Proofs.Handle.Use
import SeriesClient.Proofs.Query.Builder
import Mathlib.Tactic.Common

/-! How an operation on a stream deals with the outside world, whatever that replies. It makes one
request at most, and none for arguments that it can tell to be wrong by itself. A failure ends it and
is its outcome; only points that the push connection does not take are no failure yet, for a request
then writes them. -/

namespace SeriesClient

variable {κ α β : Type}

def failure? : Except StreamError α → Option StreamError
  | .error cause => some cause
  | .ok _ => none

/-- The failure that was replied. Points that the push connection does not take are none. -/
def Exchanged.failure? : Exchanged κ → Option StreamError
  | ⟨.api _, reply⟩ => SeriesClient.failure? reply
  | ⟨.pushInsert _ _, _⟩ => none
  | ⟨.subscribe _ _, reply⟩ => SeriesClient.failure? reply
  | ⟨.unsubscribe _, reply⟩ => SeriesClient.failure? reply

def Exchanged.call? : Exchanged κ → Option Call
  | ⟨.api call, _⟩ => some call
  | _ => none

def requested (said : List (Exchanged κ)) : List Call := said.filterMap Exchanged.call?

/-- What was said of a conversation, and its outcome. -/
structure Conduct (said : List (Exchanged κ)) (outcome : Except StreamError α) : Prop where
  once : (requested said).length ≤ 1
  /-- Nothing is said after a failure. -/
  returned : ∀ before x after cause, said = before ++ x :: after → x.failure? = some cause →
    after = [] ∧ outcome = .error cause
  declined : ∀ channel points, ⟨.pushInsert channel points, false⟩ ∈ said →
    ∃ call reply, said = [⟨.pushInsert channel points, false⟩, ⟨.api call, reply⟩] ∧
      failure? outcome = failure? reply

def Candid (e : Exchange κ (Except StreamError α)) : Prop :=
  ∀ replies, Conduct (e.hold replies).1 (e.hold replies).2

/-- What becomes of a reply when a failure is left as it is. -/
def Passes (f : Except StreamError α → Except StreamError β) : Prop :=
  ∀ cause, f (.error cause) = .error cause

theorem candid_done (outcome : Except StreamError α) :
    Candid (.done outcome : Exchange κ (Except StreamError α)) := fun _ =>
  ⟨Nat.zero_le 1, by simp [Exchange.hold], by simp [Exchange.hold]⟩

theorem conduct_single {x : Exchanged κ} {outcome : Except StreamError α}
    (hreturned : ∀ cause, x.failure? = some cause → outcome = .error cause)
    (htaken : ∀ channel points, x ≠ ⟨.pushInsert channel points, false⟩) :
    Conduct [x] outcome where
  once := List.length_filterMap_le _ _
  returned before y after cause hsaid hcause := by
    obtain ⟨rfl, rfl, rfl⟩ : before = [] ∧ y = x ∧ after = [] := by
      simpa [eq_comm] using List.append_eq_singleton_iff.1 hsaid.symm
    exact ⟨rfl, hreturned cause hcause⟩
  declined channel points hmem := absurd (List.mem_singleton.1 hmem).symm (htaken channel points)

/-- A question whose reply, if a failure, is the outcome. -/
theorem candid_reply (q : Ask κ) {f : q.Reply → Except StreamError α}
    (hf : ∀ reply cause, (Exchanged.mk q reply).failure? = some cause → f reply = .error cause)
    (hq : ∀ channel points, q ≠ .pushInsert channel points) :
    Candid (.ask q fun reply => .done (f reply)) := fun replies =>
  conduct_single (hf (replies 0 q)) fun channel points heq =>
    hq channel points (congrArg Exchanged.question heq)

theorem eq_of_failure? {reply : Except StreamError α} {cause : StreamError}
    (h : failure? reply = some cause) : reply = .error cause := by
  cases reply with
  | ok value => cases h
  | error cause' => exact congrArg Except.error (Option.some.inj h)

theorem candid_api (call : Call) {f : Except StreamError Json → Except StreamError α}
    (hf : Passes f) : Candid ((Exchange.api call : Exchange κ _).map f) :=
  candid_reply (.api call) (fun reply cause hcause => by rw [eq_of_failure? hcause, hf cause])
    (by simp)

theorem Passes.bind (f : α → Except StreamError β) : Passes (·.bind f) := fun _ => rfl

theorem Passes.map (f : α → β) : Passes (·.map f : Except StreamError α → _) := fun _ => rfl

theorem Passes.comp {γ : Type} {g : Except StreamError β → Except StreamError γ}
    {f : Except StreamError α → Except StreamError β} (hg : Passes g) (hf : Passes f) :
    Passes (g ∘ f) := fun cause => (congrArg g (hf cause)).trans (hg cause)

theorem failure?_map (f : α → β) (outcome : Except StreamError α) :
    failure? (outcome.map f) = failure? outcome := by
  cases outcome <;> rfl

theorem Candid.map {e : Exchange κ (Except StreamError α)} (h : Candid e) (f : α → β) :
    Candid (e.map (·.map f)) := by
  intro replies
  obtain ⟨honce, hreturned, hdeclined⟩ := h replies
  rw [Exchange.hold_map]
  refine ⟨honce, fun before x after cause hsaid hcause => ?_, fun channel points hmem => ?_⟩
  · obtain ⟨hafter, houtcome⟩ := hreturned before x after cause hsaid hcause
    exact ⟨hafter, by rw [houtcome]; rfl⟩
  · rw [failure?_map]
    exact hdeclined channel points hmem

namespace Stream

theorem candid_query (s : Stream) (q : Query) {f : Except StreamError (List Datapoint) →
    Except StreamError α} (hf : Passes f) : Candid ((s.query q).map f : Exchange κ _) :=
  candid_api _ (hf.comp (Passes.bind readPoints))

theorem candid_get (s : Stream) (index : Int64) : Candid (s.get index : Exchange κ _) := by
  unfold get
  split_ifs
  · exact candid_done _
  · exact s.candid_query _ fun _ => rfl

theorem candid_insertOverHttp (s : Stream) (points : List Datapoint) (restamp : Bool) :
    Candid (s.insertOverHttp points restamp : Exchange κ _) :=
  candid_api _ (Passes.map _)

/-- Points that the push connection does not take are written by a request. -/
theorem conduct_fallback (channel : String) (points : List Datapoint) (call : Call)
    (reply : Except StreamError Json) :
    Conduct [(⟨.pushInsert channel points, false⟩ : Exchanged κ), ⟨.api call, reply⟩]
      (reply.map fun _ => ()) where
  once := Nat.le_refl 1
  returned before x after cause hsaid hcause := by
    match before with
    | [] =>
      obtain ⟨rfl, -⟩ := List.cons.inj hsaid
      cases hcause
    | [_] =>
      obtain ⟨rfl, rfl⟩ := List.cons.inj (List.cons.inj hsaid).2
      rw [eq_of_failure? hcause]
      exact ⟨rfl, rfl⟩
    | _ :: _ :: _ => simp at hsaid
  declined channel' points' hmem := by
    rcases List.mem_cons.1 hmem with hfirst | hsecond
    · cases hfirst
      exact ⟨call, reply, rfl, failure?_map _ _⟩
    · cases congrArg Exchanged.question (List.mem_singleton.1 hsecond)

theorem candid_insertMany (access : Access) (s : Stream) (points : List Datapoint)
    (restamp : Bool) : Candid (s.insertMany access points restamp : Exchange κ _) := by
  unfold insertMany
  split_ifs
  · intro replies
    simp only [Exchange.hold]
    cases replies 0 (.pushInsert s.name points) with
    | true => exact conduct_single (by simp [Exchanged.failure?]) (by rintro _ _ ⟨⟩)
    | false => exact conduct_fallback s.name points _ _
  · exact s.candid_insertOverHttp points restamp

theorem candid_subscribe (access : Access) (s : Stream) (callback : κ) (downlink : Bool) :
    Candid (s.subscribe access callback downlink) := by
  unfold subscribe
  split_ifs
  · exact candid_reply (.subscribe _ callback) (fun _ _ hcause => eq_of_failure? hcause) (by simp)
  · exact candid_done _

theorem candid_unsubscribe (access : Access) (s : Stream) (downlink : Bool) :
    Candid (s.unsubscribe access downlink : Exchange κ _) := by
  unfold unsubscribe
  split_ifs
  · exact candid_reply (.unsubscribe _) (fun _ _ hcause => eq_of_failure? hcause) (by simp)
  · exact candid_done _

theorem candid_watch (access : Access) (s : Stream) (feed : κ) (updates : α) (downlink : Bool) :
    Candid (s.watch access feed updates downlink) :=
  (s.candid_subscribe access feed downlink).map _

end Stream

def Stream.queryBy (s : Stream) (settings : List Query.Builder.Setting) :
    Exchange κ (Except StreamError (List Datapoint)) :=
  match (({} : Query.Builder).setAll settings).build with
  | .error cause => .done (.error cause)
  | .ok q => s.query q

theorem Stream.candid_queryBy (s : Stream) (settings : List Query.Builder.Setting) :
    Candid (s.queryBy settings : Exchange κ _) := by
  unfold queryBy
  split
  · exact candid_done _
  · exact candid_api _ (Passes.bind readPoints)

/-- A use of a stream, or a query yet to be built. -/
inductive Undertaking (κ : Type) where
  | use (use : StreamUse κ)
  | queryBy (settings : List Query.Builder.Setting)

namespace Undertaking

def run (access : Access) (s : Stream) : Undertaking κ → Stream.Changing κ
  | use u => u.run access s
  | queryBy settings => StreamUse.lend s (s.queryBy settings)

/-- The arguments are wrong, with what is known without asking: the schema is none, there is no push
connection to listen on, nothing comes after the index, or a query goes by index and by time. -/
inductive Invalid (access : Access) : Undertaking κ → StreamError → Prop where
  | create {schema : Json} {fault : SchemaFault} (h : Schema.check schema = .error fault) :
      Invalid access (.use (.create schema)) (.schema fault)
  | subscribe {callback : κ} {downlink : Bool} (h : access.hasPush = false) :
      Invalid access (.use (.subscribe callback downlink)) .pushUnavailable
  | unsubscribe {downlink : Bool} (h : access.hasPush = false) :
      Invalid access (.use (.unsubscribe downlink)) .pushUnavailable
  | watch {feed : κ} {downlink : Bool} (h : access.hasPush = false) :
      Invalid access (.use (.watch feed downlink)) .pushUnavailable
  | get : Invalid access (.use (.get Int64.maxValue)) (.emptyResult Int64.maxValue)
  | queryBy {settings : List Query.Builder.Setting}
      (hindex : settings.any Query.Builder.Setting.isIndex = true)
      (htime : settings.any Query.Builder.Setting.isTime = true) :
      Invalid access (.queryBy settings) .addressingConflict

variable {access : Access} {s : Stream} {replies : Replies κ} {cause : StreamError}

theorem conduct_lend {operation : Exchange κ (Except StreamError α)} (h : Candid operation) :
    Conduct ((StreamUse.lend s operation).hold replies).1
      ((StreamUse.lend s operation).hold replies).2.2 := by
  have hmap := h.map (fun _ => ()) replies
  rw [Exchange.hold_map] at hmap
  rw [StreamUse.lend, Exchange.hold_map]
  exact hmap

/-- An operation that is one request, and puts what is replied in the place of the metadata. -/
theorem conduct_change (call : Call) :
    Conduct (((Exchange.api call : Exchange κ _).map s.object.takeAnswer).hold replies).1
      (((Exchange.api call : Exchange κ _).map s.object.takeAnswer).hold replies).2.2 :=
  candid_api call (f := fun answer => (s.object.takeAnswer answer).2) (fun _ => rfl) replies

theorem conduct_create (schema : Json) :
    Conduct ((s.create schema : Stream.Changing κ).hold replies).1
      ((s.create schema : Stream.Changing κ).hold replies).2.2 := by
  unfold Stream.create
  split
  · exact candid_done _ replies
  · exact conduct_change _

theorem conduct_use (u : StreamUse κ) :
    Conduct ((u.run access s).hold replies).1 ((u.run access s).hold replies).2.2 := by
  cases u with
  | refresh => exact conduct_change _
  | create schema => exact conduct_create schema
  | setNickname _ | setDownlink _ | setEphemeral _ => exact conduct_change _
  | length | timeToIndex _ => exact conduct_lend (candid_api _ (Passes.bind Stream.readCount))
  | insertMany points restamp => exact conduct_lend (s.candid_insertMany access points restamp)
  | insert value => exact conduct_lend (s.candid_insertMany access _ true)
  | query _ | slice _ _ | sliceToEnd _ =>
    exact conduct_lend (candid_api _ (Passes.bind Stream.readPoints))
  | get index => exact conduct_lend (s.candid_get index)
  | subscribe callback downlink => exact conduct_lend (s.candid_subscribe access callback downlink)
  | unsubscribe downlink => exact conduct_lend (s.candid_unsubscribe access downlink)
  | watch feed downlink => exact conduct_lend (s.candid_watch access feed () downlink)

theorem conduct_run (call : Undertaking κ) :
    Conduct ((call.run access s).hold replies).1 ((call.run access s).hold replies).2.2 := by
  cases call with
  | use u => exact conduct_use u
  | queryBy settings => exact conduct_lend (s.candid_queryBy settings)

theorem stream_of_error {u : StreamUse κ}
    (h : ((u.run access s).hold replies).2.2 = .error cause) :
    ((u.run access s).hold replies).2.1 = s := by
  cases hmetadata : u.isMetadata with
  | false => exact StreamUse.stream_run hmetadata access s replies
  | true =>
    obtain ⟨hobject, hok⟩ := StreamUse.teaches_run hmetadata access s replies
    have hnone : received ((u.run access s).hold replies).1 = none := by
      simpa [h] using hok
    rw [hnone, Metadata.told_none] at hobject
    exact congrArg Stream.mk hobject

theorem hold_of_invalid {call : Undertaking κ} (h : call.Invalid access cause) :
    (call.run access s).hold replies = ([], s, .error cause) := by
  cases h with
  | create h => simp [run, StreamUse.run, Stream.create, h, Exchange.hold]
  | subscribe h =>
    simp [run, StreamUse.run, Stream.subscribe, h, StreamUse.lend, Exchange.hold, Except.map]
  | unsubscribe h =>
    simp [run, StreamUse.run, Stream.unsubscribe, h, StreamUse.lend, Exchange.hold, Except.map]
  | watch h =>
    simp [run, StreamUse.run, Stream.watch, Stream.subscribe, h, StreamUse.lend, Exchange.hold,
      Except.map]
  | get => rfl
  | queryBy hindex htime =>
    simp [run, Stream.queryBy, Query.Builder.build_of_mixed hindex htime, StreamUse.lend,
      Exchange.hold, Except.map]

/-- Whatever is done with a stream, whatever is known of it and whatever is replied: one request is
made at most; a failure ends the operation and is its outcome, unless the push connection has not
taken the points of an insert, which the one request then writes; an operation that fails changes
nothing of what is known; and one with wrong arguments fails without asking for anything. -/
theorem asks_once_and_returns_failures (call : Undertaking κ) (access : Access) (s : Stream)
    (replies : Replies κ) :
    Conduct ((call.run access s).hold replies).1 ((call.run access s).hold replies).2.2 ∧
    (∀ cause, ((call.run access s).hold replies).2.2 = .error cause →
      ((call.run access s).hold replies).2.1 = s) ∧
    ∀ cause, call.Invalid access cause →
      (call.run access s).hold replies = ([], s, .error cause) := by
  refine ⟨conduct_run call, fun cause h => ?_, fun cause h => hold_of_invalid h⟩
  cases call with
  | use u => exact stream_of_error h
  | queryBy settings => exact StreamUse.hold_lend s _ replies

def refusing : Replies Unit := fun _ question =>
  match question with
  | .api _ => .error (.transport 503 "busy")
  | .pushInsert _ _ => false
  | .subscribe _ _ | .unsubscribe _ => .error .connectionClosed

def refused : List Datapoint :=
  [.stamped 1.5 (.string "on"), .unstamped (.object [("b", .null), ("a", .bool true)])]

/-- An insert goes over to a request, which fails; there is no datapoint after the last one. -/
theorem asks_once_and_returns_failures_refused : ∃ said,
    (run ⟨true, true⟩ (.named "a/b/c") (.use (.insertMany refused false))).hold refusing =
      (said, .named "a/b/c", .error (.transport 503 "busy")) ∧
    requested said = [.post "a/b/c/data" (.array
      [.object [("d", .string "on"), ("t", Json.ofFloat 1.5)],
        .object [("d", .object [("a", .bool true), ("b", .null)])]])] ∧
    Conduct said (.error (.transport 503 "busy") : Except StreamError Unit) ∧
    (run ⟨true, true⟩ (.named "a/b/c") (.use (.get Int64.maxValue))).hold refusing =
      ([], .named "a/b/c", .error (.emptyResult Int64.maxValue)) := by
  have hinsert := asks_once_and_returns_failures (.use (.insertMany refused false)) ⟨true, true⟩
    (.named "a/b/c") refusing
  have hget := asks_once_and_returns_failures (.use (.get Int64.maxValue)) ⟨true, true⟩
    (.named "a/b/c") refusing
  exact ⟨_, rfl, rfl, hinsert.1, hget.2.2 _ .get⟩

end Undertaking

end SeriesClient
