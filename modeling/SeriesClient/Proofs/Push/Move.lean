import SeriesClient.Push.Client
import Mathlib.Tactic.Common

/-! What one step of the push client can do: a rule for each thing that can happen, with all that
must hold before it and all that it changes. -/

namespace SeriesClient.Push.Client

variable {κ : Type}

/-- The loop begins an attempt to connect. -/
def Dials (s : Client κ) : Event κ → Prop
  | .start => s.phase = .starting
  | .elapsed => ∃ delay, s.phase = .waiting delay
  | _ => False

def Fails (s : Client κ) : Event κ → Prop
  | .refused => s.phase = .dialing
  | .lost => ∃ active, s.phase = .serving active
  | _ => False

inductive Move (s : Client κ) : Event κ → Client κ → List (Effect κ) → Prop where
  | subscribe {c : String} {k : κ} (hheld : s.held = true) :
      Move s (.callSubscribe c k)
        { s with registry := s.registry.add c k, calls := s.calls ++ [.subscribe c] } []
  | unsubscribe {c : String} (hheld : s.held = true) :
      Move s (.callUnsubscribe c)
        { s with registry := s.registry.remove c, calls := s.calls ++ [.unsubscribe c] } []
  | insert {c : String} {points : List Datapoint} (hheld : s.held = true)
      (hstate : s.state = .connected) :
      Move s (.callInsert c points)
        { s with tickets := s.tickets + 1, calls := s.calls ++ [.insert s.tickets c points] } []
  | insertOffline {c : String} {points : List Datapoint} (hheld : s.held = true)
      (hstate : s.state ≠ .connected) :
      Move s (.callInsert c points) { s with tickets := s.tickets + 1 }
        [.answered s.tickets false]
  | disconnect (hheld : s.held = true) :
      Move s .callDisconnect { s with calls := s.calls ++ [.disconnect] } []
  | queued {i : Nat} {command : Command} (hcall : s.calls[i]? = some command)
      (hphase : s.phase ≠ .ended) (hroom : s.queue.length < capacity) :
      Move s (.enqueue i)
        { s with calls := s.calls.eraseIdx i, queue := s.queue ++ [command] } [.queued command]
  | declinedSubscribe {i : Nat} {c : String} (hcall : s.calls[i]? = some (.subscribe c))
      (hphase : s.phase = .ended) :
      Move s (.enqueue i)
        { s with calls := s.calls.eraseIdx i, registry := s.registry.remove c }
        [.declined (.subscribe c)]
  | declinedInsert {i ticket : Nat} {c : String} {points : List Datapoint}
      (hcall : s.calls[i]? = some (.insert ticket c points)) (hphase : s.phase = .ended) :
      Move s (.enqueue i) { s with calls := s.calls.eraseIdx i }
        [.declined (.insert ticket c points), .answered ticket false]
  | declinedUnsubscribe {i : Nat} {c : String} (hcall : s.calls[i]? = some (.unsubscribe c))
      (hphase : s.phase = .ended) :
      Move s (.enqueue i) { s with calls := s.calls.eraseIdx i } [.declined (.unsubscribe c)]
  | declinedDisconnect {i : Nat} (hcall : s.calls[i]? = some .disconnect)
      (hphase : s.phase = .ended) :
      Move s (.enqueue i) { s with calls := s.calls.eraseIdx i } [.declined .disconnect]
  | giveUp {ticket : Nat} (hawaits : s.awaits ticket = true) :
      Move s (.giveUp ticket) { s with abandoned := ticket :: s.abandoned }
        [.answered ticket false]
  | dropHandles (hheld : s.held = true) (hidle : s.isCalled = false) :
      Move s .dropHandles { s with held := false } []
  | dial {e : Event κ} (hdials : s.Dials e) :
      Move s e { s with phase := .dialing, state := .connecting } [.entered .connecting, .dialed]
  | opened (hphase : s.phase = .dialing) :
      Move s .opened { s with phase := .opening, state := .connected, attempt := 0 }
        [.entered .connected]
  | wait {e : Event κ} (hfails : s.Fails e) (hon : s.policy.enabled = true)
      (hleft : s.attempt < s.policy.maxAttempts) :
      Move s e
        { s with
          phase := .waiting (s.policy.delay s.attempt)
          state := .reconnecting s.attempt
          attempt := s.attempt + 1 }
        [.entered (.reconnecting s.attempt), .waits (s.policy.delay s.attempt)]
  | fail {e : Event κ} (hfails : s.Fails e)
      (hover : s.policy.enabled = false ∨ s.policy.maxAttempts ≤ s.attempt) :
      Move s e { s with phase := .ended, state := .error, queue := [] }
        (.entered .error :: s.queue.flatMap (refusal s.abandoned))
  | lookUp (hphase : s.phase = .opening) :
      Move s .recall { s with phase := .announcing s.registry.channels [] } []
  | announce {c : String} {taken : Bool} {todo active : List String}
      (hphase : s.phase = .announcing todo active) (htodo : c ∈ todo) :
      Move s (.announce c taken) { s with phase := .announcing (todo.erase c) (c :: active) }
        (if taken then [.sent (.subscribe c)] else [])
  | serve {active : List String} (hphase : s.phase = .announcing [] active)
      (hping : s.policy.pingInterval.total ≠ 0) :
      Move s .serve { s with phase := .serving active } []
  | crash {active : List String} (hphase : s.phase = .announcing [] active)
      (hping : s.policy.pingInterval.total = 0) :
      Move s .serve { s with phase := .ended, queue := [] }
        (s.queue.flatMap (refusal s.abandoned))
  | handleKnown {taken : Bool} {active : List String} {c : String} {rest : List Command}
      (hphase : s.phase = .serving active) (hqueue : s.queue = .subscribe c :: rest)
      (hactive : c ∈ active) :
      Move s (.handle taken) { s with queue := rest } [.handled (.subscribe c)]
  | handleSubscribe {taken : Bool} {active : List String} {c : String} {rest : List Command}
      (hphase : s.phase = .serving active) (hqueue : s.queue = .subscribe c :: rest)
      (hactive : c ∉ active) :
      Move s (.handle taken) { s with queue := rest, phase := .serving (c :: active) }
        (.handled (.subscribe c) :: if taken then [.sent (.subscribe c)] else [])
  | handleUnsubscribe {taken : Bool} {active : List String} {c : String} {rest : List Command}
      (hphase : s.phase = .serving active) (hqueue : s.queue = .unsubscribe c :: rest) :
      Move s (.handle taken) { s with queue := rest, phase := .serving (active.filter (· != c)) }
        (.handled (.unsubscribe c) :: if taken then [.sent (.unsubscribe c)] else [])
  | handleStale {taken : Bool} {active : List String} {ticket : Nat} {c : String}
      {points : List Datapoint} {rest : List Command} (hphase : s.phase = .serving active)
      (hqueue : s.queue = .insert ticket c points :: rest) (hgone : ticket ∈ s.abandoned) :
      Move s (.handle taken) { s with queue := rest } [.handled (.insert ticket c points)]
  | handleInsert {active : List String} {ticket : Nat} {c : String}
      {points : List Datapoint} {rest : List Command} (hphase : s.phase = .serving active)
      (hqueue : s.queue = .insert ticket c points :: rest) (hgone : ticket ∉ s.abandoned) :
      Move s (.handle true) { s with queue := rest }
        [.handled (.insert ticket c points), .forwarded ticket c points, .answered ticket true]
  | handleUnsent {active : List String} {ticket : Nat} {c : String}
      {points : List Datapoint} {rest : List Command} (hphase : s.phase = .serving active)
      (hqueue : s.queue = .insert ticket c points :: rest) (hgone : ticket ∉ s.abandoned) :
      Move s (.handle false) { s with queue := rest }
        [.handled (.insert ticket c points), .answered ticket false]
  | handleDisconnect {taken : Bool} {active : List String} {rest : List Command}
      (hphase : s.phase = .serving active) (hqueue : s.queue = .disconnect :: rest) :
      Move s (.handle taken) { s with phase := .ended, state := .disconnected, queue := [] }
        (.handled .disconnect :: .entered .disconnected :: rest.flatMap (refusal s.abandoned))
  | receive {frame : Frame} {active : List String} (hphase : s.phase = .serving active) :
      Move s (.receive frame) s (s.receive frame)
  | tick {taken : Bool} {active : List String} (hphase : s.phase = .serving active) :
      Move s (.tick taken) s (if taken then [.pinged] else [])
  | drain {active : List String} (hphase : s.phase = .serving active) (hqueue : s.queue = [])
      (hheld : s.held = false) :
      Move s .drained { s with phase := .ended, queue := [] } []

variable {s s' : Client κ} {out : List (Effect κ)}

theorem dials_iff {e : Event κ} :
    s.Dials e ↔
      e = .start ∧ s.phase = .starting ∨ e = .elapsed ∧ ∃ delay, s.phase = .waiting delay := by
  cases e <;> simp [Dials]

theorem fails_iff {e : Event κ} :
    s.Fails e ↔
      e = .refused ∧ s.phase = .dialing ∨ e = .lost ∧ ∃ active, s.phase = .serving active := by
  cases e <;> simp [Fails]

theorem retry_move {e : Event κ} (h : s.Fails e) : Move s e s.retry.1 s.retry.2 := by
  unfold retry stopIn stop
  split_ifs with hover
  · exact .fail h (by simpa using hover)
  · simp only [Bool.or_eq_true, Bool.not_eq_true', decide_eq_true_eq, not_or, Bool.not_eq_false,
      Nat.not_le] at hover
    exact .wait h hover.1 hover.2

theorem perform_move {active : List String} {command : Command} {rest : List Command}
    (taken : Bool) (hphase : s.phase = .serving active) (hqueue : s.queue = command :: rest) :
    Move s (.handle taken) ({ s with queue := rest }.perform active taken command).1
      (.handled command :: ({ s with queue := rest }.perform active taken command).2) := by
  cases command with
  | subscribe c =>
    by_cases hactive : c ∈ active
    · simpa [perform, hactive] using Move.handleKnown hphase hqueue hactive
    · simpa [perform, hactive] using Move.handleSubscribe hphase hqueue hactive
  | unsubscribe c => exact .handleUnsubscribe hphase hqueue
  | insert ticket c points =>
    by_cases hgone : ticket ∈ s.abandoned
    · simpa [perform, hgone] using Move.handleStale hphase hqueue hgone
    · cases taken
      · simpa [perform, hgone] using Move.handleUnsent hphase hqueue hgone
      · simpa [perform, hgone] using Move.handleInsert hphase hqueue hgone
  | disconnect => exact .handleDisconnect hphase hqueue

theorem move_of_callInsert {c : String} {points : List Datapoint}
    (h : s.step (.callInsert c points) = some (s', out)) : Move s (.callInsert c points) s' out := by
  simp only [step, Option.ite_none_right_eq_some] at h
  obtain ⟨hheld, h⟩ := h
  split_ifs at h with hstate
  · obtain ⟨rfl, rfl⟩ := by simpa using h
    exact .insert hheld hstate
  · obtain ⟨rfl, rfl⟩ := by simpa using h
    exact .insertOffline hheld hstate

theorem move_of_enqueue {i : Nat} (h : s.step (.enqueue i) = some (s', out)) :
    Move s (.enqueue i) s' out := by
  simp only [step] at h
  split at h
  · cases h
  · next command hcall =>
    unfold putIn at h
    split_ifs at h with hphase hroom
    · cases command with
      | subscribe c =>
        obtain ⟨rfl, rfl⟩ := by simpa using h
        exact .declinedSubscribe hcall hphase
      | unsubscribe c =>
        obtain ⟨rfl, rfl⟩ := by simpa using h
        exact .declinedUnsubscribe hcall hphase
      | insert ticket c points =>
        obtain ⟨rfl, rfl⟩ := by simpa using h
        exact .declinedInsert hcall hphase
      | disconnect =>
        obtain ⟨rfl, rfl⟩ := by simpa using h
        exact .declinedDisconnect hcall hphase
    · obtain ⟨rfl, rfl⟩ := by simpa using h
      exact .queued hcall hphase hroom

theorem move_of_announce {c : String} {taken : Bool}
    (h : s.step (.announce c taken) = some (s', out)) : Move s (.announce c taken) s' out := by
  simp only [step] at h
  split at h
  · next todo active hphase =>
    simp only [Option.ite_none_right_eq_some, Option.some.injEq, Prod.mk.injEq,
      List.contains_iff_mem] at h
    obtain ⟨htodo, rfl, rfl⟩ := h
    exact .announce hphase htodo
  · cases h

theorem move_of_serve (h : s.step .serve = some (s', out)) : Move s .serve s' out := by
  simp only [step] at h
  split at h
  · next active hphase =>
    simp only [Client.serve, stop, Option.some.injEq] at h
    split_ifs at h with hping
    · obtain ⟨rfl, rfl⟩ := by simpa using h
      exact .crash hphase hping
    · obtain ⟨rfl, rfl⟩ := by simpa using h
      exact .serve hphase hping
  · cases h

theorem move_of_handle {taken : Bool} (h : s.step (.handle taken) = some (s', out)) :
    Move s (.handle taken) s' out := by
  simp only [step] at h
  split at h
  · next active command rest hphase hqueue =>
    obtain ⟨rfl, rfl⟩ := by simpa using h
    exact perform_move taken hphase hqueue
  · cases h

theorem move_of_drained (h : s.step .drained = some (s', out)) : Move s .drained s' out := by
  simp only [step] at h
  split at h
  · next active hphase =>
    simp only [stop, Option.ite_none_right_eq_some, Bool.and_eq_true, List.isEmpty_iff,
      Bool.not_eq_true', Option.some.injEq, Prod.mk.injEq] at h
    obtain ⟨⟨hqueue, hheld⟩, rfl, rfl⟩ := h
    simpa [hqueue] using Move.drain hphase hqueue hheld
  · cases h

/-- What the socket brings while it is served. -/
theorem move_of_served {e : Event κ} {after : Client κ × List (Effect κ)}
    (hmove : ∀ active, s.phase = .serving active → Move s e after.1 after.2)
    (h : (match s.phase with | .serving _ => some after | _ => none) = some (s', out)) :
    Move s e s' out := by
  split at h
  · next active hphase =>
    cases h
    exact hmove active hphase
  · cases h

theorem move_of_step {e : Event κ} (h : s.step e = some (s', out)) : Move s e s' out := by
  cases e with
  | callSubscribe c k =>
    simp only [step, Option.ite_none_right_eq_some, Option.some.injEq, Prod.mk.injEq] at h
    obtain ⟨hheld, rfl, rfl⟩ := h
    exact .subscribe hheld
  | callUnsubscribe c =>
    simp only [step, Option.ite_none_right_eq_some, Option.some.injEq, Prod.mk.injEq] at h
    obtain ⟨hheld, rfl, rfl⟩ := h
    exact .unsubscribe hheld
  | callInsert c points => exact move_of_callInsert h
  | callDisconnect =>
    simp only [step, Option.ite_none_right_eq_some, Option.some.injEq, Prod.mk.injEq] at h
    obtain ⟨hheld, rfl, rfl⟩ := h
    exact .disconnect hheld
  | enqueue i => exact move_of_enqueue h
  | giveUp ticket =>
    simp only [step, Option.ite_none_right_eq_some, Option.some.injEq, Prod.mk.injEq] at h
    obtain ⟨hawaits, rfl, rfl⟩ := h
    exact .giveUp hawaits
  | dropHandles =>
    simp only [step, Option.ite_none_right_eq_some, Option.some.injEq, Prod.mk.injEq,
      Bool.and_eq_true, Bool.not_eq_true'] at h
    obtain ⟨⟨hheld, hidle⟩, rfl, rfl⟩ := h
    exact .dropHandles hheld hidle
  | start =>
    simp only [step, dial, Option.ite_none_right_eq_some, Option.some.injEq, Prod.mk.injEq] at h
    obtain ⟨hphase, rfl, rfl⟩ := h
    exact .dial hphase
  | opened =>
    simp only [step, Option.ite_none_right_eq_some, Option.some.injEq, Prod.mk.injEq] at h
    obtain ⟨hphase, rfl, rfl⟩ := h
    exact .opened hphase
  | refused =>
    simp only [step, Option.ite_none_right_eq_some, Option.some.injEq] at h
    obtain ⟨hphase, h⟩ := h
    simpa only [h] using retry_move (e := .refused) hphase
  | «recall» =>
    simp only [step, Option.ite_none_right_eq_some, Option.some.injEq, Prod.mk.injEq] at h
    obtain ⟨hphase, rfl, rfl⟩ := h
    exact .lookUp hphase
  | announce c taken => exact move_of_announce h
  | serve => exact move_of_serve h
  | handle taken => exact move_of_handle h
  | receive frame => exact move_of_served (fun _ hphase => .receive hphase) h
  | tick taken => exact move_of_served (fun _ hphase => .tick hphase) h
  | lost => exact move_of_served (fun active hphase => retry_move ⟨active, hphase⟩) h
  | elapsed =>
    simp only [step] at h
    split at h
    · next delay hphase =>
      cases h
      exact .dial ⟨delay, hphase⟩
    · cases h
  | drained => exact move_of_drained h

theorem step_of_fails {e : Event κ} (h : s.Fails e) : s.step e = some s.retry := by
  rcases fails_iff.1 h with ⟨rfl, hphase⟩ | ⟨rfl, active, hphase⟩
  · simp [step, hphase]
  · simp [step, hphase]

theorem step_of_dials {e : Event κ} (h : s.Dials e) : s.step e = some s.dial := by
  rcases dials_iff.1 h with ⟨rfl, hphase⟩ | ⟨rfl, delay, hphase⟩
  · simp [step, hphase]
  · simp [step, hphase]

theorem step_of_move {e : Event κ} (h : Move s e s' out) : s.step e = some (s', out) := by
  cases h with
  | dial hdials => exact step_of_dials hdials
  | wait hfails hon hleft =>
    rw [step_of_fails hfails]
    simp [retry, hon, Nat.not_le.2 hleft]
  | fail hfails hover =>
    rw [step_of_fails hfails]
    rcases hover with hover | hover <;> simp [retry, stopIn, stop, hover]
  | _ => simp_all [step, putIn, Client.serve, perform, stopIn, stop]

/-- The rules are the steps. -/
theorem step_iff_move {e : Event κ} : s.step e = some (s', out) ↔ Move s e s' out :=
  ⟨move_of_step, step_of_move⟩

end SeriesClient.Push.Client
