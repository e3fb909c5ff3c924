import SeriesClient.Proofs.Push.Run

/-! When the loop begins another attempt to connect. A disconnect is a command like others and is only
handled on a socket that is served, so a client that was told to disconnect while it waits, dials or
is about to lose its socket dials again. What decides is where the loop stands and what the policy
allows, and once the command has been handled no attempt follows. -/

namespace SeriesClient.Push.Client

variable {κ : Type} {s s' : Client κ} {e : Event κ} {es fs : List (Event κ)}
  {out later : List (Effect κ)}

/-- Whether the loop can get to another attempt: from a socket by losing it, from an attempt by its
failure or by a socket that is lost, unless the clock brings the loop down before that. -/
def MayDial (s : Client κ) : Prop :=
  match s.phase with
  | .starting | .waiting _ => True
  | .dialing =>
    s.policy.enabled = true ∧ (s.attempt < s.policy.maxAttempts ∨
      0 < s.policy.maxAttempts ∧ s.policy.pingInterval.total ≠ 0)
  | .opening | .announcing _ _ =>
    s.policy.enabled = true ∧ s.attempt < s.policy.maxAttempts ∧
      s.policy.pingInterval.total ≠ 0
  | .serving _ => s.policy.enabled = true ∧ s.attempt < s.policy.maxAttempts
  | .ended => False

theorem mayDial_of_dials (h : s.Dials e) : s.MayDial := by
  rcases dials_iff.1 h with ⟨-, hphase⟩ | ⟨-, delay, hphase⟩ <;> simp [MayDial, hphase]

theorem mayDial_of_fails (h : s.Fails e) (hon : s.policy.enabled = true)
    (hleft : s.attempt < s.policy.maxAttempts) : s.MayDial := by
  rcases fails_iff.1 h with ⟨-, hphase⟩ | ⟨-, active, hphase⟩ <;> simp [MayDial, hphase, hon, hleft]

/-- No step opens up another attempt. -/
theorem mayDial_of_move (hmove : Move s e s' out) (h : s'.MayDial) : s.MayDial := by
  cases hmove with
  | dial hdials => exact mayDial_of_dials hdials
  | wait hfails hon hleft => exact mayDial_of_fails hfails hon hleft
  | fail hfails hover => exact h.elim
  | opened hphase =>
    simp only [MayDial] at h
    simp [MayDial, hphase, h]
  | _ => simp_all [MayDial]

/-- What must have happened for an effect to come about. -/
def Cause (s : Client κ) (e : Event κ) : Effect κ → Prop
  | .dialed => s.Dials e
  | .handled command => ∃ taken rest, e = .handle taken ∧ s.queue = command :: rest
  | _ => True

theorem cause_of_refusal {abandoned : List Nat} {queue : List Command} {effect : Effect κ}
    (h : effect ∈ queue.flatMap (refusal abandoned)) : s.Cause e effect := by
  obtain ⟨ticket, rfl⟩ := mem_refusals h
  trivial

theorem cause_of_taken {taken : Bool} {message : Message} {effect : Effect κ}
    (h : effect ∈ if taken then [.sent message] else []) : s.Cause e effect := by
  split_ifs at h
  · obtain rfl := List.mem_singleton.1 h
    trivial
  · cases h

theorem cause_of_receive {frame : Frame} {effect : Effect κ} (h : effect ∈ s.receive frame) :
    s.Cause e effect := by
  rcases receive_cases s frame with hout | ⟨_, hout⟩ | ⟨_, _, hout⟩ <;> rw [hout] at h
  · cases h
  · obtain rfl := List.mem_singleton.1 h
    trivial
  · obtain rfl := List.mem_singleton.1 h
    trivial

theorem cause_of_mem {effect : Effect κ} (hmove : Move s e s' out) (h : effect ∈ out) :
    s.Cause e effect := by
  cases hmove with
  | receive hphase => exact cause_of_receive h
  | announce hphase htodo => exact cause_of_taken h
  | crash hphase hping => exact cause_of_refusal h
  | dial hdials =>
    rcases List.mem_cons.1 h with rfl | h
    · trivial
    · obtain rfl := List.mem_singleton.1 h
      exact hdials
  | fail hfails hover =>
    rcases List.mem_cons.1 h with rfl | h
    · trivial
    · exact cause_of_refusal h
  | @handleSubscribe taken active c rest hphase hqueue hactive =>
    rcases List.mem_cons.1 h with rfl | h
    · exact ⟨taken, rest, rfl, hqueue⟩
    · exact cause_of_taken h
  | @handleUnsubscribe taken active c rest hphase hqueue =>
    rcases List.mem_cons.1 h with rfl | h
    · exact ⟨taken, rest, rfl, hqueue⟩
    · exact cause_of_taken h
  | @handleDisconnect taken active rest hphase hqueue =>
    rcases List.mem_cons.1 h with rfl | h
    · exact ⟨taken, rest, rfl, hqueue⟩
    rcases List.mem_cons.1 h with rfl | h
    · trivial
    · exact cause_of_refusal h
  | handleInsert hphase hqueue hgone =>
    simp only [List.mem_cons, List.not_mem_nil, or_false] at h
    rcases h with rfl | rfl | rfl
    · exact ⟨true, _, rfl, hqueue⟩
    · trivial
    · trivial
  | declinedInsert hcall hphase =>
    simp only [List.mem_cons, List.not_mem_nil, or_false] at h
    rcases h with rfl | rfl <;> trivial
  | wait hfails hon hleft =>
    simp only [List.mem_cons, List.not_mem_nil, or_false] at h
    rcases h with rfl | rfl <;> trivial
  | handleUnsent hphase hqueue hgone =>
    simp only [List.mem_cons, List.not_mem_nil, or_false] at h
    rcases h with rfl | rfl
    · exact ⟨false, _, rfl, hqueue⟩
    · trivial
  | _ => simp_all [Cause]

theorem mayDial_of_run (hrun : s.run es = some (s', out)) (h : s'.MayDial) : s.MayDial :=
  run_induction (P := fun _ s' _ => s'.MayDial → s.MayDial) id
    (fun _ ih hmove h => ih (mayDial_of_move hmove h)) hrun h

theorem mayDial_of_dialed (hrun : s.run es = some (s', out)) (h : .dialed ∈ out) : s.MayDial := by
  revert h
  refine run_induction (P := fun _ _ out => .dialed ∈ out → s.MayDial) (by simp) ?_ hrun
  intro es m out e s' last hes ih hmove h
  rcases List.mem_append.1 h with h | h
  · exact ih h
  · exact mayDial_of_run hes (mayDial_of_dials (cause_of_mem hmove h))

/-- Some run from here makes another attempt. -/
def Redials (s : Client κ) : Prop := ∃ es s' out, s.run es = some (s', out) ∧ .dialed ∈ out

theorem redials_of_move (hmove : Move s e s' out) (h : s'.Redials) : s.Redials := by
  obtain ⟨es, t, rest, hrun, hmem⟩ := h
  exact ⟨e :: es, t, out ++ rest, run_cons_iff.2 ⟨s', out, rest, hmove, hrun, rfl⟩,
    List.mem_append_right _ hmem⟩

theorem redials_of_dials (h : s.Dials e) : s.Redials :=
  ⟨[e], _, _, run_singleton_iff.2 (.dial h), by simp⟩

theorem redials_of_fails (h : s.Fails e) (hon : s.policy.enabled = true)
    (hleft : s.attempt < s.policy.maxAttempts) : s.Redials :=
  redials_of_move (.wait h hon hleft) (redials_of_dials (e := .elapsed) ⟨_, rfl⟩)

theorem redials_of_announcing {todo active : List String}
    (hphase : s.phase = .announcing todo active) (hon : s.policy.enabled = true)
    (hleft : s.attempt < s.policy.maxAttempts)
    (hping : s.policy.pingInterval.total ≠ 0) : s.Redials := by
  induction todo generalizing s active with
  | nil =>
    exact redials_of_move (.serve hphase hping) (redials_of_fails (e := .lost) ⟨_, rfl⟩ hon hleft)
  | cons c todo ih =>
    have hmove : Move s (.announce c true) _ _ := .announce hphase List.mem_cons_self
    rw [List.erase_cons_head] at hmove
    exact redials_of_move hmove (ih rfl hon hleft hping)

theorem redials_of_opening (hphase : s.phase = .opening) (hon : s.policy.enabled = true)
    (hleft : s.attempt < s.policy.maxAttempts)
    (hping : s.policy.pingInterval.total ≠ 0) : s.Redials :=
  redials_of_move (.lookUp hphase) (redials_of_announcing rfl hon hleft hping)

theorem redials_of_mayDial (h : s.MayDial) : s.Redials := by
  unfold MayDial at h
  cases hphase : s.phase with
  | starting => exact redials_of_dials (e := .start) hphase
  | waiting delay => exact redials_of_dials (e := .elapsed) ⟨delay, hphase⟩
  | dialing =>
    rw [hphase] at h
    obtain ⟨hon, hleft | ⟨hleft, hping⟩⟩ := h
    · exact redials_of_fails (e := .refused) hphase hon hleft
    · exact redials_of_move (.opened hphase) (redials_of_opening rfl hon hleft hping)
  | opening =>
    rw [hphase] at h
    exact redials_of_opening hphase h.1 h.2.1 h.2.2
  | announcing todo active =>
    rw [hphase] at h
    exact redials_of_announcing hphase h.1 h.2.1 h.2.2
  | serving active =>
    rw [hphase] at h
    exact redials_of_fails (e := .lost) ⟨active, hphase⟩ h.1 h.2
  | ended =>
    rw [hphase] at h
    exact h.elim

theorem redials_iff_mayDial : s.Redials ↔ s.MayDial :=
  ⟨fun ⟨_, _, _, hrun, hmem⟩ => mayDial_of_dialed hrun hmem, redials_of_mayDial⟩

theorem ended_of_handled_disconnect (hmove : Move s e s' out) (h : .handled .disconnect ∈ out) :
    s'.phase = .ended ∧ .dialed ∉ out := by
  obtain ⟨taken, rest, rfl, hqueue⟩ := cause_of_mem hmove h
  refine ⟨?_, fun hdialed => cause_of_mem hmove hdialed⟩
  cases hmove <;> simp_all

/-- No attempt follows once the loop has handled a command to disconnect. -/
theorem no_dial_after_handled (hrun : s.run es = some (s', out)) {before after : List (Effect κ)}
    (hout : out = before ++ .handled .disconnect :: after) : .dialed ∉ after := by
  have hboth : (.handled .disconnect ∈ out → s'.phase = .ended) ∧ ∀ before after,
      out = before ++ .handled .disconnect :: after → .dialed ∉ after := by
    clear hout before after
    refine run_induction (P := fun _ s' out => (.handled .disconnect ∈ out → s'.phase = .ended) ∧
      ∀ before after, out = before ++ .handled .disconnect :: after → .dialed ∉ after)
      (by simp) ?_ hrun
    rintro es m out e s' last hes ⟨hended, hnone⟩ hmove
    refine ⟨fun h => ?_, fun before after hsplit hdialed => ?_⟩
    · rcases List.mem_append.1 h with h | h
      · by_contra halive
        exact not_ended_of_move hmove halive (hended h)
      · exact (ended_of_handled_disconnect hmove h).1
    · -- The command was handled by the last step or by one before it.
      have hlast : .handled .disconnect ∈ last → .dialed ∉ last :=
        fun h => (ended_of_handled_disconnect hmove h).2
      rcases List.append_eq_append_iff.1 hsplit with ⟨mid, rfl, rfl⟩ | ⟨mid, rfl, hafter⟩
      · exact hlast (by simp) (by simp [hdialed])
      · rcases List.cons_eq_append_iff.1 hafter with ⟨rfl, rfl⟩ | ⟨mid, rfl, rfl⟩
        · exact hlast (by simp) (by simp [hdialed])
        · rcases List.mem_append.1 hdialed with hdialed | hdialed
          · exact hnone before mid rfl hdialed
          · exact not_ended_of_dials (cause_of_mem hmove hdialed) (hended (by simp))
  exact hboth.2 before after hout

/-- A socket that is not lost is served until the loop ends. -/
theorem no_dial_unless_lost {active : List String} (hphase : s.phase = .serving active)
    (hrun : s.run es = some (s', out)) (hkept : .lost ∉ es) : .dialed ∉ out := by
  have hboth : .lost ∉ es → ((∃ active, s'.phase = .serving active) ∨ s'.phase = .ended) ∧
      .dialed ∉ out := by
    refine run_induction (P := fun es s' out => .lost ∉ es →
      ((∃ active, s'.phase = .serving active) ∨ s'.phase = .ended) ∧ .dialed ∉ out)
      (fun _ => ⟨Or.inl ⟨active, hphase⟩, by simp⟩) ?_ hrun
    intro es m out e s' last _ ih hmove hkept
    simp only [List.mem_append, List.mem_singleton, not_or] at hkept ⊢
    obtain ⟨hserved, hnone⟩ := ih hkept.1
    have hstill : ¬ m.Dials e := by
      intro hdials
      rcases dials_iff.1 hdials with ⟨-, hphase⟩ | ⟨-, delay, hphase⟩ <;> simp_all
    refine ⟨?_, hnone, fun hdialed => hstill (cause_of_mem hmove hdialed)⟩
    cases hmove with
    | dial hdials => exact absurd hdials hstill
    | wait hfails hon hleft =>
      rcases fails_iff.1 hfails with ⟨-, hphase⟩ | ⟨rfl, -⟩ <;> simp_all
    | fail hfails hover => exact Or.inr rfl
    | _ => simp_all
  exact (hboth hkept).2

def Disconnects (s s' : Client κ) : Prop :=
  ∃ i out, s.calls[i]? = some .disconnect ∧ s.step (.enqueue i) = some (s', out)

def LetsGo (s s' : Client κ) : Prop := ∃ out, s.step .dropHandles = some (s', out)

/-- Neither of them moves the loop. -/
theorem loop_of_call (h : s.Disconnects s' ∨ s.LetsGo s') :
    s'.phase = s.phase ∧ s'.policy = s.policy ∧ s'.attempt = s.attempt := by
  rcases h with ⟨i, out, -, hstep⟩ | ⟨out, hstep⟩
  · cases move_of_step hstep with
    | dial hdials => exact hdials.elim
    | wait hfails _ _ => exact hfails.elim
    | fail hfails _ => exact hfails.elim
    | _ => exact ⟨rfl, rfl, rfl⟩
  · cases move_of_step hstep with
    | dial hdials => exact hdials.elim
    | wait hfails _ _ => exact hfails.elim
    | fail hfails _ => exact hfails.elim
    | dropHandles hheld hidle => exact ⟨rfl, rfl, rfl⟩

theorem mayDial_of_call (h : s.Disconnects s' ∨ s.LetsGo s') : s'.MayDial ↔ s.MayDial := by
  obtain ⟨hphase, hpolicy, hattempt⟩ := loop_of_call h
  simp only [MayDial, hphase, hpolicy, hattempt]

/-- Whether a call to disconnect, or dropping the last handle, is final depends on where the loop
stands. It dials no more just when it could not have dialed without the call either; a socket that is
served when the call returns has to be lost first, and handling the command settles it. -/
theorem final_iff_not_mayDial (h : s.Disconnects s' ∨ s.LetsGo s') :
    ((∀ fs t later, s'.run fs = some (t, later) → .dialed ∉ later) ↔ ¬ s.MayDial) ∧
    (∀ active, s.phase = .serving active → ∀ fs t later, s'.run fs = some (t, later) →
      .lost ∉ fs → .dialed ∉ later) ∧
    ∀ fs t later, s'.run fs = some (t, later) → ∀ before after,
      later = before ++ .handled .disconnect :: after → .dialed ∉ after := by
  have hmay : s'.MayDial ↔ s.MayDial := mayDial_of_call h
  refine ⟨⟨fun hnone hmayDial => ?_, fun hnot fs t later hrun hdialed => ?_⟩, ?_, ?_⟩
  · obtain ⟨fs, t, later, hrun, hdialed⟩ := redials_iff_mayDial.2 (hmay.2 hmayDial)
    exact hnone fs t later hrun hdialed
  · exact hnot (hmay.1 (mayDial_of_dialed hrun hdialed))
  · intro active hphase fs t later hrun hkept
    exact no_dial_unless_lost ((loop_of_call h).1.trans hphase) hrun hkept
  · exact fun fs t later hrun before after hout => no_dial_after_handled hrun hout

def farewell : List (Event Nat) := [.start, .opened, .recall, .serve, .callDisconnect]

theorem final_iff_not_mayDial_farewell : ∃ s out s',
    (connect { enabled := false }).run farewell = some (s, out) ∧ s.Disconnects s' ∧
    ∀ fs t later, s'.run fs = some (t, later) → .dialed ∉ later := by
  obtain ⟨s, out, s', hrun, hcall, hnot⟩ : ∃ s out s',
      (connect { enabled := false }).run farewell = some (s, out) ∧ s.Disconnects s' ∧
      ¬ s.MayDial :=
    ⟨_, _, _, rfl, ⟨0, _, rfl, rfl⟩, fun h => Bool.false_ne_true h.1⟩
  exact ⟨s, out, s', hrun, hcall, (final_iff_not_mayDial (Or.inl hcall)).1.2 hnot⟩

def refusedOnce : List (Event Nat) :=
  [.start, .refused, .callSubscribe "a" 1, .enqueue 0, .callDisconnect]

/-- It dials again and announces its channels on the new socket, or ends in an error when the attempt
fails, and it dials again as well when nobody holds it any more. -/
theorem dials_after_disconnect :
    (∃ s out s' t later, (connect {}).run refusedOnce = some (s, out) ∧ s.Disconnects s' ∧
      s'.run [.elapsed, .opened, .recall, .announce "a" true] = some (t, later) ∧
      .dialed ∈ later ∧ .sent (.subscribe "a") ∈ later) ∧
    (∃ s out s' t later, (connect { maxAttempts := 1 }).run refusedOnce = some (s, out) ∧
      s.Disconnects s' ∧ s'.run [.elapsed, .refused] = some (t, later) ∧ .dialed ∈ later ∧
      t.state = .error) ∧
    ∃ (s : Client Nat) (out : List (Effect Nat)) (s' t : Client Nat) (later : List (Effect Nat)),
      (connect {}).run [.start, .refused] = some (s, out) ∧ s.LetsGo s' ∧
      s'.run [.elapsed] = some (t, later) ∧ .dialed ∈ later := by
  refine ⟨?_, ?_, ?_⟩
  · have hrun : (connect {}).run refusedOnce = some (_, _) := rfl
    exact ⟨_, _, _, _, _, hrun, ⟨0, _, rfl, rfl⟩, rfl, by simp, by simp⟩
  · have hrun : (connect { maxAttempts := 1 }).run refusedOnce = some (_, _) := rfl
    exact ⟨_, _, _, _, _, hrun, ⟨0, _, rfl, rfl⟩, rfl, by simp, rfl⟩
  · have hrun : (connect {} : Client Nat).run [.start, .refused] = some (_, _) := rfl
    exact ⟨_, _, _, _, _, hrun, ⟨_, rfl⟩, rfl, by simp⟩

end SeriesClient.Push.Client
