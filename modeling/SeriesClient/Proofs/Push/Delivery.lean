import SeriesClient.Proofs.Push.Run

/-! Delivery: which callbacks run is read off what has happened, without the client's state. A frame
that holds an update runs the callback of the last subscribe on its channel, unless the channel was
unsubscribed since, and nothing else runs one. -/

namespace SeriesClient.Push

variable {κ : Type}

/-- The callback of the last subscribe on the channel, unless an unsubscribe came after it. -/
def registeredAfter (past : List (Event κ)) (c : String) : Option κ :=
  match (past.filter fun e => e.calledOn? == some c).getLast? with
  | some (.callSubscribe _ k) => some k
  | _ => none

def Event.update? : Event κ → Option Update
  | .receive (.data bytes) =>
    match Update.decode (Glyph.ofBytes bytes) with
    | .ok update => some update
    | .error _ => none
  | _ => none

/-- The invocation that an event asks for after a past. -/
def due (past : List (Event κ)) (e : Event κ) : Option (κ × Update) :=
  e.update?.bind fun update => (registeredAfter past update.channel).map (·, update)

/-- All that the events ask for, one after another. -/
def dueAfter (past : List (Event κ)) : List (Event κ) → List (κ × Update)
  | [] => []
  | e :: es => (due past e).toList ++ dueAfter (past ++ [e]) es

def invocations (out : List (Effect κ)) : List (κ × Update) :=
  out.filterMap fun
    | .ran callback update => some (callback, update)
    | _ => none

/-- What the loop does to renew a connection. -/
def Event.renews : Event κ → Bool
  | .start | .opened | .refused | .recall | .announce _ _ | .serve | .lost | .elapsed => true
  | _ => false

def Event.callback? : Event κ → Option κ
  | .callSubscribe _ callback => some callback
  | _ => none

theorem dueAfter_append (past es fs : List (Event κ)) :
    dueAfter past (es ++ fs) = dueAfter past es ++ dueAfter (past ++ es) fs := by
  induction es generalizing past with
  | nil => simp [dueAfter]
  | cons e es ih => simp [dueAfter, ih]

theorem mem_dueAfter {past es : List (Event κ)} {i : κ × Update} (h : i ∈ dueAfter past es) :
    ∃ before e after, es = before ++ e :: after ∧ due (past ++ before) e = some i := by
  induction es generalizing past with
  | nil => simp [dueAfter] at h
  | cons e es ih =>
    rw [dueAfter, List.mem_append, Option.mem_toList] at h
    rcases h with h | h
    · exact ⟨[], e, es, rfl, by simpa using h⟩
    · obtain ⟨before, e', after, rfl, hdue⟩ := ih h
      exact ⟨e :: before, e', after, rfl, by simpa using hdue⟩

theorem registeredAfter_concat (past : List (Event κ)) (e : Event κ) (c : String) :
    registeredAfter (past ++ [e]) c =
      if e.calledOn? = some c then e.callback? else registeredAfter past c := by
  by_cases h : e.calledOn? = some c
  · cases e <;> simp_all [registeredAfter, Event.calledOn?, Event.callback?]
  · simp [registeredAfter, h]

/-- A callback that is registered after more events was subscribed by them or registered before. -/
theorem registeredAfter_append {past es : List (Event κ)} {c : String} {k : κ}
    (h : registeredAfter (past ++ es) c = some k) :
    .callSubscribe c k ∈ es ∨ registeredAfter past c = some k := by
  induction es using List.reverseRecOn with
  | nil => exact Or.inr (by simpa using h)
  | append_singleton es e ih =>
    rw [← List.append_assoc, registeredAfter_concat] at h
    split_ifs at h with hon
    · cases e with
      | callSubscribe d k' =>
        obtain rfl : d = c := by simpa [Event.calledOn?] using hon
        obtain rfl : k' = k := by simpa [Event.callback?] using h
        exact Or.inl (by simp)
      | _ => simp [Event.callback?] at h
    · exact (ih h).imp_left fun hmem => List.mem_append_left _ hmem

theorem invocations_append (out out' : List (Effect κ)) :
    invocations (out ++ out') = invocations out ++ invocations out' :=
  List.filterMap_append

theorem due_eq_none {e : Event κ} (past : List (Event κ)) (h : e.update? = none) :
    due past e = none := by
  rw [due, h, Option.bind_none]

theorem invocations_refusals (abandoned : List Nat) (queue : List Command) :
    invocations (queue.flatMap (Client.refusal (κ := κ) abandoned)) = [] := by
  refine List.filterMap_eq_nil_iff.2 fun effect h => ?_
  obtain ⟨ticket, rfl⟩ := Client.mem_refusals h
  rfl

namespace Client

variable {s s' : Client κ} {e : Event κ} {es past : List (Event κ)} {out : List (Effect κ)}

/-- A call registers what it says, or nothing. -/
theorem find?_of_call {c : String} (hmove : Move s e s' out) (hcall : e.calledOn? = some c) :
    s'.registry.find? c = e.callback? := by
  cases hmove with
  | subscribe hheld =>
    cases hcall
    exact Registry.find?_add_self _ _ _
  | unsubscribe hheld =>
    cases hcall
    exact Registry.find?_remove_self _ _
  | dial hdials => rcases dials_iff.1 hdials with ⟨rfl, -⟩ | ⟨rfl, -⟩ <;> cases hcall
  | wait hfails hon hleft => rcases fails_iff.1 hfails with ⟨rfl, -⟩ | ⟨rfl, -⟩ <;> cases hcall
  | fail hfails hover => rcases fails_iff.1 hfails with ⟨rfl, -⟩ | ⟨rfl, -⟩ <;> cases hcall
  | _ => cases hcall

/-- A subscribe is declined in its second step, after the end of the loop, and takes what is registered
for its channel with it. -/
theorem find?_of_declined {c : String} (hmove : Move s e s' out)
    (h : .declined (.subscribe c) ∈ out) :
    ∃ i, e = .enqueue i ∧ s.calls[i]? = some (.subscribe c) ∧ s'.phase = .ended ∧
      s'.registry.find? c = none := by
  cases hmove with
  | @declinedSubscribe i d hcall hphase =>
    obtain rfl : c = d := by simpa using h
    exact ⟨i, rfl, hcall, hphase, Registry.find?_remove_self _ _⟩
  | @receive frame active hphase =>
    rcases receive_cases s frame with hlast | ⟨_, hlast⟩ | ⟨_, _, hlast⟩ <;> simp [hlast] at h
  | fail hfails hover =>
    obtain ⟨ticket, h⟩ := mem_refusals (List.mem_of_ne_of_mem (by simp) h)
    cases h
  | crash hphase hping =>
    obtain ⟨ticket, h⟩ := mem_refusals h
    cases h
  | handleDisconnect hphase hqueue =>
    obtain ⟨ticket, h⟩ := mem_refusals
      (List.mem_of_ne_of_mem (by simp) (List.mem_of_ne_of_mem (by simp) h))
    cases h
  | @announce d taken todo active hphase htodo => cases taken <;> simp at h
  | @handleSubscribe taken active d rest hphase hqueue hactive => cases taken <;> simp at h
  | @handleUnsubscribe taken active d rest hphase hqueue => cases taken <;> simp at h
  | _ => simp at h

theorem find?_of_quiet {c : String} (hmove : Move s e s' out) (hcall : e.calledOn? ≠ some c)
    (hdeclined : .declined (.subscribe c) ∉ out) :
    s'.registry.find? c = s.registry.find? c := by
  cases hmove with
  | subscribe hheld => exact Registry.find?_add_of_ne (fun h => hcall (congrArg some h.symm)) _ _
  | unsubscribe hheld => exact Registry.find?_remove_of_ne (fun h => hcall (congrArg some h.symm)) _
  | declinedSubscribe hcall' hphase =>
    exact Registry.find?_remove_of_ne (fun h => hdeclined (by simp [h])) _
  | _ => rfl

theorem find?_of_move (hmove : Move s e s' out) (halive : s'.phase ≠ .ended)
    (h : ∀ c, s.registry.find? c = registeredAfter past c) (c : String) :
    s'.registry.find? c = registeredAfter (past ++ [e]) c := by
  rw [registeredAfter_concat]
  split_ifs with hcall
  · exact find?_of_call hmove hcall
  · have hkept : .declined (.subscribe c) ∉ out := by
      intro hmem
      obtain ⟨i, -, -, hended, -⟩ := find?_of_declined hmove hmem
      exact halive hended
    rw [find?_of_quiet hmove hcall hkept, h]

/-- While the loop lives the registry holds what the calls so far have registered. -/
theorem find?_eq_registeredAfter {policy : ReconnectPolicy}
    (hrun : (connect policy).run es = some (s, out)) (halive : s.phase ≠ .ended) (c : String) :
    s.registry.find? c = registeredAfter es c := by
  revert halive c
  refine run_induction (P := fun es s _ => s.phase ≠ .ended → ∀ c,
    s.registry.find? c = registeredAfter es c) ?_ ?_ hrun
  · intro _ c
    rfl
  · intro es s out e s' last _ ih hmove halive
    exact find?_of_move hmove halive (ih (not_ended_of_move hmove halive))

/-- The invocation that an event asks for, by what is registered. -/
def called (s : Client κ) (e : Event κ) : Option (κ × Update) :=
  e.update?.bind fun update => (s.registry.find? update.channel).map (·, update)

theorem called_eq_none (s : Client κ) (h : e.update? = none) : s.called e = none := by
  rw [called, h, Option.bind_none]

theorem called_eq_due (h : ∀ c, s.registry.find? c = registeredAfter past c) (e : Event κ) :
    s.called e = due past e := by
  simp only [called, due, h]

theorem receive_eq_called (s : Client κ) (frame : Frame) :
    s.receive frame = match frame with
      | .ping payload => [.pong payload]
      | _ => (s.called (.receive frame)).toList.map fun i => .ran i.1 i.2 := by
  cases frame with
  | ping payload => rfl
  | other => rfl
  | data bytes =>
    simp only [receive, dispatch, called, Event.update?]
    cases Update.decode (Glyph.ofBytes bytes) with
    | error failure => rfl
    | ok update =>
      simp only [Option.bind_some]
      cases s.registry.find? update.channel <;> rfl

/-- A frame changes nothing, is answered if it is a ping, and runs what it asks for. -/
theorem receive_eq (s : Client κ) (frame : Frame)
    (h : ∀ c, s.registry.find? c = registeredAfter past c) :
    s.receive frame = match frame with
      | .ping payload => [.pong payload]
      | _ => (due past (.receive frame)).toList.map fun i => .ran i.1 i.2 := by
  rw [receive_eq_called, called_eq_due h]

theorem update?_of_fails (h : s.Fails e) : e.update? = none := by
  rcases fails_iff.1 h with ⟨rfl, -⟩ | ⟨rfl, -⟩ <;> rfl

theorem update?_of_dials (h : s.Dials e) : e.update? = none := by
  rcases dials_iff.1 h with ⟨rfl, -⟩ | ⟨rfl, -⟩ <;> rfl

theorem not_ended_of_update (hmove : Move s e s' out) (h : e.update? ≠ none) :
    s.phase ≠ .ended := by
  cases hmove with
  | receive hphase => simp [hphase]
  | dial hdials => exact absurd (update?_of_dials hdials) h
  | wait hfails _ _ => exact absurd (update?_of_fails hfails) h
  | fail hfails _ => exact absurd (update?_of_fails hfails) h
  | _ => exact absurd rfl h

/-- A step runs the callback that it asks for, and no other. -/
theorem invocations_eq_called (hmove : Move s e s' out) :
    invocations out = (s.called e).toList := by
  cases hmove with
  | @receive frame active hphase =>
    rw [receive_eq_called]
    cases frame with
    | data bytes =>
      simp only
      cases s.called (.receive (.data bytes)) <;> rfl
    | _ => rfl
  | dial hdials =>
    rw [called_eq_none s (update?_of_dials hdials)]
    rfl
  | wait hfails hon hleft =>
    rw [called_eq_none s (update?_of_fails hfails)]
    rfl
  | fail hfails hover =>
    rw [called_eq_none s (update?_of_fails hfails)]
    exact invocations_refusals s.abandoned s.queue
  | crash hphase hping => exact invocations_refusals s.abandoned s.queue
  | @handleDisconnect taken active rest hphase hqueue =>
    exact invocations_refusals s.abandoned rest
  | @announce c taken todo active hphase htodo => cases taken <;> rfl
  | @handleSubscribe taken active c rest hphase hqueue hactive => cases taken <;> rfl
  | @handleUnsubscribe taken active c rest hphase hqueue => cases taken <;> rfl
  | @tick taken active hphase => cases taken <;> rfl
  | _ => rfl

theorem invocations_of_move (hmove : Move s e s' out)
    (h : s.phase ≠ .ended → ∀ c, s.registry.find? c = registeredAfter past c) :
    invocations out = (due past e).toList := by
  rw [invocations_eq_called hmove]
  cases hupdate : e.update? with
  | none => rw [called_eq_none s hupdate, due_eq_none past hupdate]
  | some update => rw [called_eq_due (h (not_ended_of_update hmove (by simp [hupdate])))]

theorem invocations_eq_due {policy : ReconnectPolicy}
    (hrun : (connect policy).run es = some (s, out)) : invocations out = dueAfter [] es := by
  refine run_induction (P := fun es _ out => invocations out = dueAfter [] es) rfl ?_ hrun
  intro es s out e s' last hes ih hmove
  rw [invocations_append, dueAfter_append, ih,
    invocations_of_move hmove fun halive => find?_eq_registeredAfter hes halive]
  simp [dueAfter]

/-- What runs from some point on was subscribed after it or registered by then. -/
theorem registered_of_invocation {policy : ReconnectPolicy} {fs : List (Event κ)}
    {rest : List (Effect κ)} {k : κ} {update : Update}
    (hrun : (connect policy).run es = some (s, out)) (hrest : s.run fs = some (s', rest))
    (hran : (k, update) ∈ invocations rest) :
    .callSubscribe update.channel k ∈ fs ∨ registeredAfter es update.channel = some k := by
  have hboth := invocations_eq_due (run_append_iff.2 ⟨s, out, rest, hrun, hrest, rfl⟩)
  rw [invocations_append, dueAfter_append, invocations_eq_due hrun,
    List.append_cancel_left_eq, List.nil_append] at hboth
  rw [hboth] at hran
  obtain ⟨before, e, after, rfl, hdue⟩ := mem_dueAfter hran
  obtain ⟨update', -, hk⟩ := Option.bind_eq_some_iff.1 hdue
  obtain ⟨k', hregistered, heq⟩ := Option.map_eq_some_iff.1 hk
  obtain ⟨rfl, rfl⟩ := Prod.mk.inj heq
  exact (registeredAfter_append hregistered).imp_left fun hmem => List.mem_append_left _ hmem

/-- Renewing a connection runs nothing and changes neither the registry nor, as long as the loop
lives, the queue. -/
theorem renews_of_move (hmove : Move s e s' out) (hrenews : e.renews = true) :
    invocations out = [] ∧ s'.registry = s.registry ∧
      (s'.phase ≠ .ended → s'.queue = s.queue) := by
  refine ⟨?_, ?_⟩
  · cases hmove with
    | fail hfails hover => exact invocations_refusals s.abandoned s.queue
    | crash hphase hping => exact invocations_refusals s.abandoned s.queue
    | @announce c taken todo active hphase htodo => cases taken <;> rfl
    | receive hphase => cases hrenews
    | tick hphase => cases hrenews
    | handleDisconnect hphase hqueue => cases hrenews
    | handleSubscribe hphase hqueue hactive => cases hrenews
    | handleUnsubscribe hphase hqueue => cases hrenews
    | _ => rfl
  · cases hmove <;> simp_all [Event.renews]

/-- The callbacks that run are those that the history asks for, in its order. A frame leaves the client
as it is and has no other effect than a pong to a ping and the callback it asks for; renewing the
connection runs nothing. What was unsubscribed or replaced does not run before it is subscribed
again. -/
theorem delivery {policy : ReconnectPolicy} (hrun : (connect policy).run es = some (s, out)) :
    invocations out = dueAfter [] es ∧
    (s.phase ≠ .ended → ∀ c, s.registry.find? c = registeredAfter es c) ∧
    (∀ frame s' last, s.step (.receive frame) = some (s', last) →
      s' = s ∧ last = match frame with
        | .ping payload => [.pong payload]
        | _ => (due es (.receive frame)).toList.map fun i => .ran i.1 i.2) ∧
    (∀ e s' last, e.renews = true → s.step e = some (s', last) →
      invocations last = [] ∧ s'.registry = s.registry ∧
        (s'.phase ≠ .ended → s'.queue = s.queue)) ∧
    (∀ before c, es = before ++ [.callUnsubscribe c] → ∀ fs s' rest, s.run fs = some (s', rest) →
      (∀ k, .callSubscribe c k ∉ fs) → ∀ k update, (k, update) ∈ invocations rest →
        update.channel ≠ c) ∧
    (∀ before c k, es = before ++ [.callSubscribe c k] → ∀ fs s' rest,
      s.run fs = some (s', rest) → ∀ k', k' ≠ k → .callSubscribe c k' ∉ fs → ∀ update,
        (k', update) ∈ invocations rest → update.channel ≠ c) := by
  refine ⟨invocations_eq_due hrun, find?_eq_registeredAfter hrun, ?_, ?_, ?_, ?_⟩
  · intro frame s' last hstep
    cases move_of_step hstep with
    | receive hphase =>
      exact ⟨rfl, receive_eq s frame (find?_eq_registeredAfter hrun (by simp [hphase]))⟩
    | dial hdials => exact hdials.elim
    | wait hfails _ _ => exact hfails.elim
    | fail hfails _ => exact hfails.elim
  · intro e s' last hrenews hstep
    exact renews_of_move (move_of_step hstep) hrenews
  · rintro before c rfl fs s' rest hrest hnone k update hran rfl
    rcases registered_of_invocation hrun hrest hran with hmem | hregistered
    · exact hnone k hmem
    · simp [registeredAfter_concat, Event.calledOn?, Event.callback?] at hregistered
  · rintro before c k rfl fs s' rest hrest k' hne hnot update hran rfl
    rcases registered_of_invocation hrun hrest hran with hmem | hregistered
    · exact hnot hmem
    · exact hne (by
        simpa [registeredAfter_concat, Event.calledOn?, Event.callback?, eq_comm] using hregistered)

def updateOnA : Frame :=
  .data [123, 34, 115, 116, 114, 101, 97, 109, 34, 58, 34, 97, 34, 125]

/-- A callback is replaced, the connection renewed, a broken frame received and the channel left. -/
def visits : List (Event Nat) :=
  [.start, .opened, .recall, .serve, .callSubscribe "a" 1, .enqueue 0, .handle true,
    .receive updateOnA, .callSubscribe "a" 2, .receive updateOnA, .lost, .elapsed, .opened, .recall,
    .announce "a" true, .serve, .receive updateOnA, .receive (.data [0]), .receive (.ping []),
    .callUnsubscribe "a", .receive updateOnA]

theorem delivery_visits : ∃ s out, (connect {}).run visits = some (s, out) ∧
    invocations out = dueAfter [] visits ∧ (invocations out).map Prod.fst = [1, 2, 2] := by
  have hrun : (connect {}).run visits = some (_, _) := rfl
  exact ⟨_, _, hrun, (delivery hrun).1, rfl⟩

end Client
end SeriesClient.Push
