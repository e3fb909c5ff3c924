import SeriesClient.Proofs.Push.Run

/-! Whether a client that tells it is connected is served. The state is told where a socket comes up
and where the loop gives up or is told to stop. A clock without a period brings the loop down between
these places, and then the client goes on telling that it is connected while nobody takes its
commands; nothing else does that to a client that is held. -/

namespace SeriesClient.Push.Client

variable {κ : Type} {s s' : Client κ} {e : Event κ} {es : List (Event κ)} {out : List (Effect κ)}

/-- The loop comes down as it begins to serve a socket. -/
def Crashes (s : Client κ) : Prop := ∃ s' out, s.step .serve = some (s', out) ∧ s'.phase = .ended

/-- The loop is there and has the queue: a call to subscribe or unsubscribe is taken as soon as there
is room, and no call is declined. -/
structure Serves (s : Client κ) : Prop where
  alive : s.phase ≠ .ended
  subscribe : ∀ c k, s.queue.length < capacity → ∃ s',
    s.run [.callSubscribe c k, .enqueue s.calls.length] = some (s', [.queued (.subscribe c)])
  unsubscribe : ∀ c, s.queue.length < capacity → ∃ s',
    s.run [.callUnsubscribe c, .enqueue s.calls.length] = some (s', [.queued (.unsubscribe c)])
  taken : ∀ i s' out, s.step (.enqueue i) = some (s', out) → ∀ command, .declined command ∉ out

theorem crashes_iff :
    s.Crashes ↔ (∃ active, s.phase = .announcing [] active) ∧
      s.policy.pingInterval.total = 0 := by
  constructor
  · rintro ⟨s', out, hstep, hended⟩
    cases move_of_step hstep with
    | crash hphase hping => exact ⟨⟨_, hphase⟩, hping⟩
    | serve hphase hping => cases hended
    | dial hdials => exact hdials.elim
    | wait hfails _ _ => exact hfails.elim
    | fail hfails _ => exact hfails.elim
  · rintro ⟨⟨active, hphase⟩, hping⟩
    exact ⟨_, _, step_of_move (.crash hphase hping), rfl⟩

/-- A call whose first step is done last has the last place among those under way. -/
theorem getElem?_calls (calls : List Command) (command : Command) :
    (calls ++ [command])[calls.length]? = some command := by simp

theorem serves_of_alive (halive : s.phase ≠ .ended) (hheld : s.held = true) : s.Serves where
  alive := halive
  subscribe c k hroom := by
    have hcall : Move s (.callSubscribe c k) _ _ := .subscribe hheld
    exact ⟨_, run_cons_iff.2 ⟨_, _, _, hcall,
      run_singleton_iff.2 (.queued (getElem?_calls _ _) halive hroom), rfl⟩⟩
  unsubscribe c hroom := by
    have hcall : Move s (.callUnsubscribe c) _ _ := .unsubscribe hheld
    exact ⟨_, run_cons_iff.2 ⟨_, _, _, hcall,
      run_singleton_iff.2 (.queued (getElem?_calls _ _) halive hroom), rfl⟩⟩
  taken i s' out hstep command hmem := by
    cases move_of_step hstep <;> simp_all [Dials, Fails]

/-- Only a clock without a period leaves a client that is held telling that it is connected after the
loop has ended. -/
theorem pingInterval_of_ended {policy : ReconnectPolicy}
    (hrun : (connect policy).run es = some (s, out)) (hended : s.phase = .ended)
    (hstate : s.state = .connected) (hheld : s.held = true) :
    policy.pingInterval.total = 0 := by
  revert hended hstate hheld
  refine run_induction (P := fun _ s _ => s.phase = .ended → s.state = .connected →
    s.held = true → policy.pingInterval.total = 0) ?_ ?_ hrun
  · simp [connect]
  · intro es s out e s' last hes ih hmove
    obtain rfl := policy_of_run hes
    cases hmove <;> simp_all

/-- The loop never crashes, and whoever is told that the client is connected is served, just if the
clock has a period. -/
theorem served_iff_pingInterval {policy : ReconnectPolicy} :
    (∀ es s out, (connect policy : Client κ).run es = some (s, out) →
      ¬ s.Crashes ∧ (s.state = .connected → s.held = true → s.Serves)) ↔
      policy.pingInterval.total ≠ 0 := by
  constructor
  · intro h hping
    have hrun : (connect policy : Client κ).run [.start, .opened, .recall] = some (_, _) := rfl
    exact (h _ _ _ hrun).1 (crashes_iff.2 ⟨⟨[], rfl⟩, hping⟩)
  · intro hping es s out hrun
    have hpolicy : s.policy = policy := policy_of_run hrun
    refine ⟨fun hcrash => hping (hpolicy ▸ (crashes_iff.1 hcrash).2), fun hstate hheld => ?_⟩
    refine serves_of_alive (fun hended => hping ?_) hheld
    exact pingInterval_of_ended hrun hended hstate hheld

theorem stays_ended (hrun : s.run es = some (s', out)) (hended : s.phase = .ended) :
    s'.phase = .ended ∧ s'.state = s.state := by
  refine run_induction (P := fun _ s' _ => s'.phase = .ended ∧ s'.state = s.state)
    ⟨hended, rfl⟩ ?_ hrun
  intro es m out e s' last _ ih hmove
  obtain ⟨hstill, hstate⟩ := state_of_ended hmove ih.1
  exact ⟨hstill, hstate.trans ih.2⟩

/-- With a clock without a period the first socket brings the loop down: the client tells from then on
that it is connected, and a call to subscribe is declined. -/
theorem connected_unserved : ∃ (s : Client Nat) (out : List (Effect Nat)) (t : Client Nat),
    (connect { pingInterval := ⟨0⟩ }).run [.start, .opened, .recall, .serve] = some (s, out) ∧
    s.state = .connected ∧ s.held = true ∧
    s.run [.callSubscribe "a" 1, .enqueue 0] = some (t, [.declined (.subscribe "a")]) ∧
    ∀ fs t later, s.run fs = some (t, later) → t.phase = .ended ∧ t.state = .connected := by
  have hrun : (connect { pingInterval := ⟨0⟩ } : Client Nat).run
    [.start, .opened, .recall, .serve] = some (_, _) := rfl
  exact ⟨_, _, _, hrun, rfl, rfl, rfl, fun fs t later hlater => stays_ended hlater rfl⟩

end SeriesClient.Push.Client
