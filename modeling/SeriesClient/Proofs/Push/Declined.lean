import SeriesClient.Proofs.Push.Run
import SeriesClient.Stream

/-! What a call that fails leaves behind. A call changes the registry first and only then finds that
the loop has ended; to subscribe undoes its change by forgetting the channel, and to unsubscribe does
not undo it. Either way the channel is forgotten, so the registry is what it was just if the channel
had no callback. -/

namespace SeriesClient.Push

variable {κ : Type}

/-- A call that changes what is registered. -/
inductive Enrolment (κ : Type) where
  | subscribe (channel : String) (callback : κ)
  | unsubscribe (channel : String)

namespace Enrolment

def channel : Enrolment κ → String
  | subscribe c _ | unsubscribe c => c

def event : Enrolment κ → Event κ
  | subscribe c k => .callSubscribe c k
  | unsubscribe c => .callUnsubscribe c

def command : Enrolment κ → Command
  | subscribe c _ => .subscribe c
  | unsubscribe c => .unsubscribe c

def ask : Enrolment κ → Exchange κ (Except StreamError Unit)
  | subscribe c k => .ask (.subscribe c k) .done
  | unsubscribe c => .ask (.unsubscribe c) .done

def change (r : Registry κ) : Enrolment κ → Registry κ
  | subscribe c k => r.add c k
  | unsubscribe c => r.remove c

def undo (r : Registry κ) : Enrolment κ → Registry κ
  | subscribe c _ => r.remove c
  | unsubscribe _ => r

/-- The channel is forgotten, and nothing else is. -/
theorem find?_undo_change (call : Enrolment κ) (r : Registry κ) (d : String) :
    (call.undo (call.change r)).find? d = if d = call.channel then none else r.find? d := by
  split_ifs with hd
  · subst hd
    cases call with
    | subscribe c k => exact Registry.find?_remove_self _ _
    | unsubscribe c => exact Registry.find?_remove_self _ _
  · cases call with
    | subscribe c k =>
      exact (Registry.find?_remove_of_ne hd _).trans (Registry.find?_add_of_ne hd _ _)
    | unsubscribe c => exact Registry.find?_remove_of_ne hd _

end Enrolment

/-- Two registries have the same channels, each with the same callback. -/
def Registry.Agrees (r r' : Registry κ) : Prop := ∀ d, r.find? d = r'.find? d

theorem Enrolment.agrees_undo_change_iff (call : Enrolment κ) (r : Registry κ) :
    (call.undo (call.change r)).Agrees r ↔ r.find? call.channel = none := by
  constructor
  · intro h
    rw [← h call.channel, find?_undo_change, if_pos rfl]
  · intro hnone d
    rw [find?_undo_change]
    split_ifs with hd
    · rw [hd, hnone]
    · rfl

def Effect.declines : Effect κ → Bool
  | .declined _ => true
  | _ => false

/-- What a call is told whose second step brings these effects about. -/
def reply (out : List (Effect κ)) : Except StreamError Unit :=
  if out.any Effect.declines then .error .connectionClosed else .ok ()

namespace Client

/-- A call runs from its first step to the reply to its second one. Others may take steps in between,
as long as they leave the registry alone. -/
def Returns (s : Client κ) (call : Enrolment κ) (s' : Client κ) (answer : Except StreamError Unit) :
    Prop :=
  ∃ m first fs n between i last, s.step call.event = some (m, first) ∧
    m.run fs = some (n, between) ∧ n.registry = m.registry ∧ n.calls[i]? = some call.command ∧
    n.step (.enqueue i) = some (s', last) ∧ reply last = answer

/-- An operation runs to its outcome over a push client, which answers all that it asks. -/
inductive Converses {α : Type} : Client κ → Exchange κ α → Client κ → α → Prop where
  | done {s : Client κ} {value : α} : Converses s (.done value) s value
  | subscribe {s m s' : Client κ} {c : String} {k : κ} {answer : Except StreamError Unit}
      {next : Except StreamError Unit → Exchange κ α} {value : α}
      (hcall : s.Returns (.subscribe c k) m answer) (hrest : Converses m (next answer) s' value) :
      Converses s (.ask (.subscribe c k) next) s' value
  | unsubscribe {s m s' : Client κ} {c : String} {answer : Except StreamError Unit}
      {next : Except StreamError Unit → Exchange κ α} {value : α}
      (hcall : s.Returns (.unsubscribe c) m answer) (hrest : Converses m (next answer) s' value) :
      Converses s (.ask (.unsubscribe c) next) s' value

variable {s s' : Client κ} {call : Enrolment κ} {out : List (Effect κ)} {cause : StreamError}

theorem registry_of_first (hstep : s.step call.event = some (s', out)) :
    s'.registry = call.change s.registry := by
  cases call with
  | subscribe c k =>
    simp only [Enrolment.event, step, Option.ite_none_right_eq_some, Option.some.injEq,
      Prod.mk.injEq] at hstep
    obtain ⟨-, rfl, -⟩ := hstep
    rfl
  | unsubscribe c =>
    simp only [Enrolment.event, step, Option.ite_none_right_eq_some, Option.some.injEq,
      Prod.mk.injEq] at hstep
    obtain ⟨-, rfl, -⟩ := hstep
    rfl

/-- A call fails only where the loop has ended. -/
theorem registry_of_failure {i : Nat} (hcall : s.calls[i]? = some call.command)
    (hstep : s.step (.enqueue i) = some (s', out)) (hreply : reply out = .error cause) :
    cause = .connectionClosed ∧ s.phase = .ended ∧ s'.registry = call.undo s.registry := by
  have hput : { s with calls := s.calls.eraseIdx i }.putIn call.command = some (s', out) := by
    simpa only [step, hcall] using hstep
  unfold putIn at hput
  split_ifs at hput with hended hroom
  · cases call with
    | subscribe c k =>
      obtain ⟨rfl, rfl⟩ := by simpa [Enrolment.command] using hput
      exact ⟨by simpa [reply, Effect.declines, eq_comm] using hreply, hended, rfl⟩
    | unsubscribe c =>
      obtain ⟨rfl, rfl⟩ := by simpa [Enrolment.command] using hput
      exact ⟨by simpa [reply, Effect.declines, eq_comm] using hreply, hended, rfl⟩
  · obtain ⟨-, rfl⟩ := by simpa using hput
    simp [reply, Effect.declines] at hreply

theorem registry_of_returns (h : s.Returns call s' (.error cause)) :
    cause = .connectionClosed ∧ s'.registry = call.undo (call.change s.registry) := by
  obtain ⟨m, first, fs, n, between, i, last, hfirst, -, hkept, hcall, hsecond, hreply⟩ := h
  obtain ⟨hcause, -, hregistry⟩ := registry_of_failure hcall hsecond hreply
  refine ⟨hcause, ?_⟩
  rw [hregistry, hkept, registry_of_first hfirst]

theorem returns_of_ask {answer : Except StreamError Unit} (h : Converses s call.ask s' answer) :
    s.Returns call s' answer := by
  cases call with
  | subscribe c k =>
    cases h with
    | subscribe hcall hrest =>
      cases hrest
      exact hcall
  | unsubscribe c =>
    cases h with
    | unsubscribe hcall hrest =>
      cases hrest
      exact hcall

theorem Converses.map {α β : Type} {e : Exchange κ α} {value : α} (f : α → β)
    (h : Converses s e s' value) : Converses s (e.map f) s' (f value) := by
  induction h with
  | done => exact .done
  | subscribe hcall _ ih => exact .subscribe hcall ih
  | unsubscribe hcall _ ih => exact .unsubscribe hcall ih

/-- What is made of an outcome is asked for by the operation that has it. -/
theorem converses_of_map {α β : Type} {f : α → β} {e : Exchange κ α} {value : β}
    (h : Converses s (e.map f) s' value) : ∃ a, Converses s e s' a ∧ f a = value := by
  induction e generalizing s with
  | done a =>
    cases h
    exact ⟨a, .done, rfl⟩
  | ask question next ih =>
    change Converses s (.ask question fun reply => (next reply).map f) s' value at h
    cases question with
    | api call => cases h
    | pushInsert channel points => cases h
    | subscribe c k =>
      cases h with
      | subscribe hcall hrest =>
        obtain ⟨a, ha, hvalue⟩ := ih _ hrest
        exact ⟨a, .subscribe hcall ha, hvalue⟩
    | unsubscribe c =>
      cases h with
      | unsubscribe hcall hrest =>
        obtain ⟨a, ha, hvalue⟩ := ih _ hrest
        exact ⟨a, .unsubscribe hcall ha, hvalue⟩

/-- A watch fails where it fails to subscribe. -/
theorem subscribe_of_watch {α : Type} {access : Access} {stream : Stream} {feed : κ} {updates : α}
    {downlink : Bool}
    (h : Converses s (stream.watch access feed updates downlink) s' (.error cause)) :
    Converses s (stream.subscribe access feed downlink) s' (.error cause) := by
  obtain ⟨answer, hsubscribe, hanswer⟩ := converses_of_map h
  cases answer with
  | ok u => cases hanswer
  | error cause' =>
    cases hanswer
    exact hsubscribe

/-- An operation that makes the call if there is a push connection, and fails without one. -/
theorem agrees_of_operation (call : Enrolment κ) {hasPush : Bool}
    (h : Converses s (if hasPush then call.ask else .done (.error .pushUnavailable)) s'
      (.error cause)) :
    s'.registry.Agrees s.registry ↔
      (hasPush = true → s.registry.find? call.channel = none) := by
  split_ifs at h with hpush
  · rw [(registry_of_returns (returns_of_ask h)).2, Enrolment.agrees_undo_change_iff]
    simp [hpush]
  · cases h
    exact iff_of_true (fun _ => rfl) fun hpush' => absurd hpush' hpush

/-- A call that fails forgets its channel and no other, so it leaves the registry as it was just if
the channel had no callback. The same goes for a stream that subscribes, watches, whatever its updates
are taken from, or unsubscribes, unless it fails for want of a push connection, which changes
nothing. -/
theorem failed_call_agrees_iff (s : Client κ) :
    (∀ call s' cause, s.Returns call s' (.error cause) → cause = .connectionClosed ∧
      (∀ d, s'.registry.find? d = if d = call.channel then none else s.registry.find? d) ∧
      (s'.registry.Agrees s.registry ↔ s.registry.find? call.channel = none)) ∧
    (∀ access stream k downlink s' cause,
      Converses s (Stream.subscribe access stream k downlink) s' (.error cause) →
      (s'.registry.Agrees s.registry ↔
        (access.hasPush = true →
          s.registry.find? (Channel.ofStream stream.name downlink) = none))) ∧
    (∀ (α : Type) access stream feed (updates : α) downlink s' cause,
      Converses s (Stream.watch access stream feed updates downlink) s' (.error cause) →
      (s'.registry.Agrees s.registry ↔
        (access.hasPush = true →
          s.registry.find? (Channel.ofStream stream.name downlink) = none))) ∧
    (∀ access stream downlink s' cause,
      Converses s (Stream.unsubscribe access stream downlink) s' (.error cause) →
      (s'.registry.Agrees s.registry ↔
        (access.hasPush = true →
          s.registry.find? (Channel.ofStream stream.name downlink) = none))) := by
  refine ⟨fun call s' cause h => ?_, fun access stream k downlink s' cause h => ?_,
    fun α access stream feed updates downlink s' cause h => ?_,
    fun access stream downlink s' cause h => ?_⟩
  · obtain ⟨hcause, hregistry⟩ := registry_of_returns h
    rw [hregistry]
    exact ⟨hcause, call.find?_undo_change s.registry, call.agrees_undo_change_iff s.registry⟩
  · exact agrees_of_operation (.subscribe (Channel.ofStream stream.name downlink) k) h
  · exact agrees_of_operation (.subscribe (Channel.ofStream stream.name downlink) feed)
      (subscribe_of_watch h)
  · exact agrees_of_operation (.unsubscribe (Channel.ofStream stream.name downlink)) h

def stopped : List (Event Nat) :=
  [.start, .opened, .recall, .serve, .callSubscribe "a" 1, .enqueue 0, .handle true,
    .callDisconnect, .enqueue 0, .handle true]

/-- The calls that fail then, one to put another callback in the place of the first, be it that of a
watch, and one to unsubscribe, lose the callback that there was. -/
theorem failed_call_loses : ∃ s out t u, (connect {}).run stopped = some (s, out) ∧
    s.registry.find? "a" = some 1 ∧
    s.Returns (.subscribe "a" 2) t (.error .connectionClosed) ∧
    Converses s (Stream.watch ⟨false, true⟩ (.named "a") 2 () false) t (.error .connectionClosed) ∧
    t.registry.find? "a" = none ∧
    s.Returns (.unsubscribe "a") u (.error .connectionClosed) ∧ u.registry.find? "a" = none := by
  have hrun : (connect {}).run stopped = some (_, _) := rfl
  exact ⟨_, _, _, _, hrun, rfl,
    ⟨_, _, [], _, _, 0, _, rfl, rfl, rfl, rfl, rfl, rfl⟩,
    .subscribe ⟨_, _, [], _, _, 0, _, rfl, rfl, rfl, rfl, rfl, rfl⟩ .done, rfl,
    ⟨_, _, [], _, _, 0, _, rfl, rfl, rfl, rfl, rfl, rfl⟩, rfl⟩

end Client
end SeriesClient.Push
