import SeriesClient.Proofs.Push.Declined
import SeriesClient.Proofs.Push.Overlap
import SeriesClient.Proofs.Push.Served
import SeriesClient.Proofs.Push.Ticket

/-! What a client does whose loop has ended. The registry, the state and the tickets outlive the loop,
and calls go on reading them; all that comes of a call is that it is declined, and an insert that had
no answer yet is answered with no. -/

namespace SeriesClient.Push

variable {κ : Type}

/-- A call or an insert is turned down. -/
def Effect.Refuses : Effect κ → Prop
  | .declined _ => True
  | .answered _ inserted => inserted = false
  | _ => False

def Slip.Known (a : Slip) : Prop := a.called ≠ [] ∨ a.queued ≠ [] ∨ a.answers ≠ []

theorem Slip.Stands.known {p : Parcel} {a b : Slip} (h : a.Stands p) (hknown : a.Known)
    (hpasses : a.Passes b) : b.Known := by
  cases hpasses with
  | aside => exact hknown
  | queued hcall => exact Or.inr (Or.inl (by simp))
  | declined hcall => exact Or.inr (Or.inr (by simp))
  | givenUp hqueue hgone => exact Or.inr (Or.inr (by simp))
  | dropped =>
    cases h with
    | unissued => exact absurd hknown (by simp [Known, blank])
    | called => exact Or.inl (by simp)
    | _ => exact Or.inr (Or.inr (by simp))
  | skipped hqueue hgone =>
    cases h with
    | stale queued => exact Or.inr (Or.inr (by simp))
    | _ => cases hgone
  | sent hqueue hgone => exact Or.inr (Or.inr (by simp))
  | unsent hqueue hgone => exact Or.inr (Or.inr (by simp))

theorem false_of_refuses {out : List (Effect κ)} (h : ∀ effect ∈ out, effect.Refuses) (t : Nat) :
    ∀ inserted ∈ answers t out, inserted = false := by
  intro inserted hmem
  obtain ⟨effect, heffect, hanswer⟩ := List.mem_filterMap.1 hmem
  have hrefuses := h effect heffect
  cases effect with
  | answered ticket sent =>
    obtain ⟨-, rfl⟩ := by simpa using hanswer
    exact hrefuses
  | _ => cases hanswer

/-- A yes was told before no more was said than no. -/
theorem yes_before {past out : List (Effect κ)} {t : Nat} (h : ∀ effect ∈ out, effect.Refuses)
    (hyes : answers t (past ++ out) = [true]) : answers t past = [true] := by
  rw [answers_append, List.append_eq_singleton_iff] at hyes
  rcases hyes with ⟨-, hout⟩ | ⟨hpast, -⟩
  · exact absurd (false_of_refuses h t true (hout ▸ List.mem_singleton_self _)) nofun
  · exact hpast

namespace Client

variable {s s' t : Client κ} {e : Event κ} {es fs : List (Event κ)} {out last later : List (Effect κ)}

theorem refuses_of_refusal {abandoned : List Nat} {queue : List Command} :
    ∀ effect ∈ queue.flatMap (refusal (κ := κ) abandoned), effect.Refuses := by
  intro effect h
  obtain ⟨ticket, rfl⟩ := mem_refusals h
  rfl

/-- After the end of the loop calls are turned down and nothing else happens. -/
theorem refuses_of_ended (hmove : Move s e s' out) (hended : s.phase = .ended) :
    ∀ effect ∈ out, effect.Refuses := by
  cases hmove with
  | dial hdials => exact absurd hended (not_ended_of_dials hdials)
  | wait hfails _ _ => exact absurd hended (not_ended_of_fails hfails)
  | fail hfails _ => exact absurd hended (not_ended_of_fails hfails)
  | _ => simp_all [Effect.Refuses]

theorem not_dials_of_ended (hended : s.phase = .ended) : ¬ s.Dials e := fun h =>
  not_ended_of_dials h hended

theorem not_fails_of_ended (hended : s.phase = .ended) : ¬ s.Fails e := fun h =>
  not_ended_of_fails h hended

/-- What a step does at which the loop is told to stop, or gives up. -/
theorem ending_cases (hmove : Move s e s' out)
    (hcause : .handled .disconnect ∈ out ∨ .entered .error ∈ out) :
    (∃ active behind, s.phase = .serving active ∧ s.queue = .disconnect :: behind ∧
      s' = { s with phase := .ended, state := .disconnected, queue := [] } ∧
      out = .handled .disconnect :: .entered .disconnected ::
        behind.flatMap (refusal s.abandoned)) ∨
    (s.Fails e ∧ s' = { s with phase := .ended, state := .error, queue := [] } ∧
      out = .entered .error :: s.queue.flatMap (refusal s.abandoned)) := by
  cases hmove with
  | handleDisconnect hphase hqueue => exact Or.inl ⟨_, _, hphase, hqueue, rfl, rfl⟩
  | fail hfails hover => exact Or.inr ⟨hfails, rfl, rfl⟩
  | crash hphase hping =>
    rcases hcause with h | h <;> obtain ⟨ticket, hticket⟩ := mem_refusals h <;> cases hticket
  | @receive frame active hphase =>
    rcases receive_cases s frame with h | ⟨_, h⟩ | ⟨_, _, h⟩ <;> simp [h] at hcause
  | @announce c taken todo active hphase htodo => cases taken <;> simp at hcause
  | @handleSubscribe taken active c rest hphase hqueue hactive => cases taken <;> simp at hcause
  | @handleUnsubscribe taken active c rest hphase hqueue => cases taken <;> simp at hcause
  | _ => simp at hcause

/-- The step at which the loop is told to stop or gives up ends it, and the client tells why. -/
structure Ending (s s' : Client κ) (out : List (Effect κ)) : Prop where
  alive : s.phase ≠ .ended
  ended : s'.phase = .ended
  stopped : .handled .disconnect ∈ out → s'.state = .disconnected ∧ ∃ behind,
    s.queue = .disconnect :: behind ∧ out = .handled .disconnect :: .entered .disconnected ::
      behind.flatMap (refusal s.abandoned)
  failed : .entered .error ∈ out → s'.state = .error
  quiet : ∀ effect ∈ out, effect.Refuses ∨ effect = .handled .disconnect ∨
    effect = .entered s'.state

theorem ending_of_move (hmove : Move s e s' out)
    (hcause : .handled .disconnect ∈ out ∨ .entered .error ∈ out) : Ending s s' out := by
  rcases ending_cases hmove hcause with ⟨active, behind, hphase, hqueue, rfl, rfl⟩ |
    ⟨hfails, rfl, rfl⟩
  · refine ⟨by simp [hphase], rfl, fun _ => ⟨rfl, behind, hqueue, rfl⟩, fun h => ?_, ?_⟩
    · simp only [List.mem_cons, reduceCtorEq, Effect.entered.injEq, false_or] at h
      obtain ⟨ticket, hticket⟩ := mem_refusals h
      cases hticket
    · rintro effect (_ | ⟨_, _ | ⟨_, h⟩⟩)
      · exact Or.inr (Or.inl rfl)
      · exact Or.inr (Or.inr rfl)
      · exact Or.inl (refuses_of_refusal effect h)
  · refine ⟨not_ended_of_fails hfails, rfl, fun h => ?_, fun _ => rfl, ?_⟩
    · obtain ⟨ticket, hticket⟩ := mem_refusals ((List.mem_cons.1 h).resolve_left nofun)
      cases hticket
    · rintro effect (_ | ⟨_, h⟩)
      · exact Or.inr (Or.inr rfl)
      · exact Or.inl (refuses_of_refusal effect h)

theorem Ending.state_ne (h : Ending s s' out)
    (hcause : .handled .disconnect ∈ out ∨ .entered .error ∈ out) : s'.state ≠ .connected := by
  rcases hcause with hcause | hcause
  · simp [(h.stopped hcause).1]
  · simp [h.failed hcause]

/-- The loop drops the queue as it ends, and tells no to whoever waits for an insert in it. -/
theorem answers_of_ending (hmove : Move s e s' out) (halive : s.phase ≠ .ended)
    (hended : s'.phase = .ended) (ticket : Nat) :
    s'.queue = [] ∧ answers ticket out =
      if s.abandoned.contains ticket then [] else (parcels ticket s.queue).map fun _ => false := by
  cases hmove with
  | handleDisconnect hphase hqueue =>
    rw [hqueue]
    exact ⟨rfl, answers_refusals _ _⟩
  | fail hfails hover => exact ⟨rfl, answers_refusals _ _⟩
  | crash hphase hping => exact ⟨rfl, answers_refusals _ _⟩
  | drain hphase hqueue hheld => exact ⟨rfl, by simp [hqueue]⟩
  | _ => simp_all

/-- An insert that waits in the queue has no answer, unless nobody waits for it any more. -/
theorem answers_of_queued {p : Parcel} {a : Slip} (h : a.Stands p) (hqueued : a.queued ≠ []) :
    a.frames = [] ∧ a.answers ++ (if a.gone then [] else a.queued.map fun _ => false) = [false] := by
  cases h with
  | queued => exact ⟨rfl, rfl⟩
  | stale queued => exact ⟨rfl, rfl⟩
  | _ => exact absurd rfl hqueued

theorem stands_of_queued {policy : ReconnectPolicy} {ticket : Nat} {c : String}
    {points : List Datapoint} (hrun : (connect policy).run es = some (s, out))
    (hmem : .insert ticket c points ∈ s.queue) :
    (s.slip ticket out).queued ≠ [] ∧ ∃ p, (s.slip ticket out).Stands p := by
  have hparcel : (c, points) ∈ (s.slip ticket out).queued :=
    List.mem_filterMap.2 ⟨_, hmem, if_pos rfl⟩
  have hqueued := List.ne_nil_of_mem hparcel
  have haccounts := accounts_of_run hrun
  have hissued : ticket < (issued es).length := by
    rw [← haccounts.tickets]
    by_contra hle
    exact hqueued (congrArg Slip.queued (haccounts.blank ticket (Nat.not_lt.1 hle)))
  exact ⟨hqueued, _, haccounts.stands ticket _ (List.getElem?_eq_getElem hissued)⟩

/-- Nothing goes out for an insert that is in the queue when the loop ends, and it is answered no. -/
theorem refused_of_ending {policy : ReconnectPolicy} {ticket : Nat} {c : String}
    {points : List Datapoint} (hrun : (connect policy).run es = some (s, out))
    (hmove : Move s e s' last) (halive : s.phase ≠ .ended) (hended : s'.phase = .ended)
    (hmem : .insert ticket c points ∈ s.queue) :
    frames ticket out = [] ∧ answers ticket (out ++ last) = [false] := by
  obtain ⟨hqueued, p, hstands⟩ := stands_of_queued hrun hmem
  obtain ⟨hframes, hanswers⟩ := answers_of_queued hstands hqueued
  rw [answers_append, (answers_of_ending hmove halive hended ticket).2]
  exact ⟨hframes, hanswers⟩

theorem queue_of_ended {policy : ReconnectPolicy} (hrun : (connect policy).run es = some (s, out))
    (hended : s.phase = .ended) : s.queue = [] := by
  revert hended
  refine run_induction (P := fun _ s _ => s.phase = .ended → s.queue = []) (fun _ => rfl) ?_ hrun
  intro es s out e s' last _ ih hmove hended
  by_cases halive : s.phase = .ended
  · have hqueue := ih halive
    cases hmove <;> simp_all
  · exact (answers_of_ending hmove halive hended 0).1

theorem quiet_of_run (hrun : s.run es = some (s', out)) (hended : s.phase = .ended) :
    s'.phase = .ended ∧ s'.state = s.state ∧ ∀ effect ∈ out, effect.Refuses := by
  refine run_induction (P := fun _ s' out => s'.phase = .ended ∧ s'.state = s.state ∧
    ∀ effect ∈ out, effect.Refuses) ⟨hended, rfl, nofun⟩ ?_ hrun
  rintro es m out e s' last - ⟨hm, hstate, hquiet⟩ hmove
  obtain ⟨hstill, htold⟩ := state_of_ended hmove hm
  exact ⟨hstill, htold.trans hstate,
    List.forall_mem_append.2 ⟨hquiet, refuses_of_ended hmove hm⟩⟩

/-- A channel that was not registered before is so only while a call to subscribe to it is under
way. -/
def Undone (s s' : Client κ) : Prop :=
  ∀ c ∈ s'.registry.channels, c ∈ s.registry.channels ∨ .subscribe c ∈ s'.calls

theorem mem_calls_of_declined {i : Nat} {command other : Command}
    (hcall : s.calls[i]? = some command) (hmem : other ∈ s.calls) (hne : other ≠ command) :
    other ∈ s.calls.eraseIdx i := by
  obtain ⟨before, after, hcalls, herase⟩ := split_at_call hcall
  rw [hcalls] at hmem
  rw [herase]
  simp only [List.mem_append, List.mem_cons] at hmem ⊢
  rcases hmem with h | h | h
  · exact Or.inl h
  · exact absurd h hne
  · exact Or.inr h

theorem undone_of_move (h : Undone t s) (hmove : Move s e s' out) (hended : s.phase = .ended) :
    Undone t s' := by
  -- What a call that is not one to subscribe leaves behind.
  have hother : ∀ {i : Nat} {command : Command}, s.calls[i]? = some command →
      (∀ c, command ≠ .subscribe c) → ∀ c ∈ s.registry.channels,
      c ∈ t.registry.channels ∨ .subscribe c ∈ s.calls.eraseIdx i := by
    intro i command hcall hne c hc
    exact (h c hc).imp_right fun hmem => mem_calls_of_declined hcall hmem (hne c).symm
  cases hmove with
  | subscribe hheld =>
    intro d hd
    rcases (Registry.mem_channels_add _ _ _ _).1 hd with rfl | hd
    · exact Or.inr (by simp)
    · exact (h d hd).imp_right (List.mem_append_left _)
  | unsubscribe hheld =>
    intro d hd
    exact (h d ((Registry.mem_channels_remove _ _ _).1 hd).2).imp_right (List.mem_append_left _)
  | insert hheld hstate => exact fun d hd => (h d hd).imp_right (List.mem_append_left _)
  | disconnect hheld => exact fun d hd => (h d hd).imp_right (List.mem_append_left _)
  | declinedSubscribe hcall hphase =>
    intro d hd
    obtain ⟨hne, hd⟩ := (Registry.mem_channels_remove _ _ _).1 hd
    exact (h d hd).imp_right fun hmem => mem_calls_of_declined hcall hmem (by simp [hne])
  | declinedInsert hcall hphase => exact hother hcall nofun
  | declinedUnsubscribe hcall hphase => exact hother hcall nofun
  | declinedDisconnect hcall hphase => exact hother hcall nofun
  | dial hdials => exact absurd hdials (not_dials_of_ended hended)
  | wait hfails _ _ => exact absurd hfails (not_fails_of_ended hended)
  | fail hfails _ => exact absurd hfails (not_fails_of_ended hended)
  | insertOffline hheld hstate => exact h
  | giveUp hawaits => exact h
  | dropHandles hheld hidle => exact h
  | _ => simp_all

theorem undone_of_run (hrun : s.run es = some (s', out)) (hended : s.phase = .ended) :
    Undone s s' := by
  refine run_induction (P := fun _ s' _ => Undone s s') (fun _ h => Or.inl h) ?_ hrun
  intro es m out e s' last hes ih hmove
  exact undone_of_move ih hmove (quiet_of_run hes hended).1

/-- A call whose second step finds the loop gone. -/
structure Declines (s : Client κ) (i : Nat) (command : Command) (s' : Client κ)
    (out : List (Effect κ)) : Prop where
  step : s.step (.enqueue i) = some (s', out)
  calls : s'.calls = s.calls.eraseIdx i
  reply : reply out = .error .connectionClosed
  answer : ∀ ticket c points, command = .insert ticket c points → answers ticket out = [false]
  undone : ∀ c, command = .subscribe c → c ∉ s'.registry.channels

theorem declines_of_call {i : Nat} {command : Command} (hended : s.phase = .ended)
    (hcall : s.calls[i]? = some command) : ∃ s' out, s.Declines i command s' out := by
  cases command with
  | subscribe c =>
    refine ⟨_, _, step_of_move (.declinedSubscribe hcall hended), rfl, rfl, ?_, ?_⟩
    · intro t d ps h
      cases h
    · intro d hd
      cases hd
      simp [Registry.mem_channels_remove]
  | unsubscribe c =>
    refine ⟨_, _, step_of_move (.declinedUnsubscribe hcall hended), rfl, rfl, ?_, ?_⟩
    · intro t d ps h
      cases h
    · intro d hd
      cases hd
  | insert ticket c points =>
    refine ⟨_, _, step_of_move (.declinedInsert hcall hended), rfl, rfl, ?_, ?_⟩
    · intro t d ps h
      cases h
      simp [answers]
    · intro d hd
      cases hd
  | disconnect =>
    refine ⟨_, _, step_of_move (.declinedDisconnect hcall hended), rfl, rfl, ?_, ?_⟩
    · intro t d ps h
      cases h
    · intro d hd
      cases hd

theorem known_of_move (hmove : Move s e s' out) {p : Parcel} {past : List (Effect κ)} {t : Nat}
    (hstands : (s.slip t past).Stands p) (hknown : (s.slip t past).Known)
    (hold : t < s.tickets) : (s'.slip t (past ++ out)).Known :=
  hstands.known hknown (slip_passes hmove (Or.inl hold))

theorem known_of_insert {c : String} {points : List Datapoint} {past : List (Effect κ)}
    (hmove : Move s (.callInsert c points) s' out) :
    (s'.slip s.tickets (past ++ out)).Known := by
  cases hmove with
  | insert hheld hstate => exact Or.inl (by simp [slip, Command.parcel?])
  | insertOffline hheld hstate => exact Or.inr (Or.inr (by simp [slip]))
  | dial hdials => exact hdials.elim
  | wait hfails _ _ => exact hfails.elim
  | fail hfails _ => exact hfails.elim

/-- An insert that was called for is under way or was answered. -/
theorem known_of_run {policy : ReconnectPolicy} (hrun : (connect policy).run es = some (s, out))
    {t : Nat} (ht : t < s.tickets) : (s.slip t out).Known := by
  revert ht
  refine run_induction (P := fun _ s out => t < s.tickets → (s.slip t out).Known)
    (fun h => absurd h (Nat.not_lt_zero t)) ?_ hrun
  intro es s out e s' last hes ih hmove ht
  have haccounts := accounts_of_run hes
  by_cases hold : t < s.tickets
  · obtain ⟨p, hp⟩ : ∃ p, (issued es)[t]? = some p := by
      rw [haccounts.tickets] at hold
      exact ⟨_, List.getElem?_eq_getElem hold⟩
    exact known_of_move hmove (haccounts.stands t p hp) (ih hold) hold
  · cases e with
    | callInsert c points =>
      obtain ⟨htickets, -⟩ := stands_of_insert hmove (haccounts.blank _ (Nat.le_refl _))
      obtain rfl : t = s.tickets := by omega
      exact known_of_insert hmove
    | _ => exact absurd ((tickets_of_move hmove rfl) ▸ ht) hold

/-- Once the loop has ended an insert that has no answer yet is that of a call under way. -/
theorem pending_of_unanswered {policy : ReconnectPolicy} {t : Nat}
    (hrun : (connect policy).run es = some (s, out)) (hended : s.phase = .ended)
    (ht : t < s.tickets) (hnone : answers t out = []) :
    ∃ (i : Nat) (c : String) (points : List Datapoint),
      s.calls[i]? = some (.insert t c points) := by
  have hqueue : parcels t s.queue = [] := by rw [queue_of_ended hrun hended]; rfl
  have hcalled : parcels t s.calls ≠ [] := by
    rcases known_of_run hrun ht with h | h | h
    · exact h
    · exact absurd hqueue h
    · exact absurd hnone h
  obtain ⟨p, hp⟩ := List.exists_mem_of_ne_nil _ hcalled
  obtain ⟨command, hmem, hparcel⟩ := List.mem_filterMap.1 hp
  obtain ⟨i, hi⟩ := List.mem_iff_getElem?.1 hmem
  cases command with
  | insert ticket c points =>
    obtain ⟨rfl, -⟩ := by simpa [Command.parcel?] using hparcel
    exact ⟨i, c, points, hi⟩
  | _ => cases hparcel

/-- The loop was told to stop with `behind` in the queue: all that was queued before is what was
handled, in this order, nothing is handled any more, and no insert among what is left goes out. -/
structure Obeyed (past out : List (Effect κ)) (behind : List Command) : Prop where
  queued : queuedIn past = handledIn past ++ .disconnect :: behind
  handled : handledIn out = handledIn past ++ [.disconnect]
  unsent : ∀ ticket c points, .insert ticket c points ∈ behind → frames ticket out = []

/-- The operation comes to an end with the connection closed, whatever happens meanwhile, and no
channel is registered by it. -/
structure Closed {α : Type} (s : Client κ) (operation : Exchange κ (Except StreamError α)) : Prop where
  ends : s.held = true → ∃ s' answer, Converses s operation s' answer
  closed : ∀ s' answer, Converses s operation s' answer →
    answer = .error .connectionClosed ∧ ∀ c ∈ s'.registry.channels, c ∈ s.registry.channels

/-- What is sure of a client `t` whose loop had ended at `s`, with what was brought about before and
since. -/
structure Absorbs (s t : Client κ) (past later : List (Effect κ)) : Prop where
  ended : t.phase = .ended
  state : t.state = s.state
  quiet : ∀ effect ∈ later, effect.Refuses
  undone : Undone s t
  answered : ∀ ticket < t.tickets, answers ticket past ≠ [true] →
    answers ticket (past ++ later) = [false] ∨
      answers ticket (past ++ later) = [] ∧ ∃ (i : Nat) (c : String) (points : List Datapoint),
        t.calls[i]? = some (.insert ticket c points)
  declines : ∀ (i : Nat) command, t.calls[i]? = some command → ∃ u out, t.Declines i command u out
  subscribe : ∀ access stream callback downlink, access.hasPush = true →
    t.Closed (Stream.subscribe access stream callback downlink)
  watch : ∀ (α : Type) access stream feed (updates : α) downlink, access.hasPush = true →
    t.Closed (Stream.watch access stream feed updates downlink)
  unsubscribe : ∀ access stream downlink, access.hasPush = true →
    t.Closed (Stream.unsubscribe access stream downlink)

theorem handledIn_of_refuses (h : ∀ effect ∈ out, effect.Refuses) : handledIn out = [] := by
  refine List.filterMap_eq_nil_iff.2 fun effect heffect => ?_
  have hrefuses := h effect heffect
  cases effect with
  | handled command => exact hrefuses.elim
  | _ => rfl

theorem frames_of_refuses (h : ∀ effect ∈ out, effect.Refuses) (ticket : Nat) :
    frames ticket out = [] := by
  refine List.filterMap_eq_nil_iff.2 fun effect heffect => ?_
  have hrefuses := h effect heffect
  cases effect with
  | forwarded ticket c points => exact hrefuses.elim
  | _ => rfl

theorem obeyed_of_ending {policy : ReconnectPolicy} {behind : List Command}
    (hrun : (connect policy).run es = some (s, out)) (hmove : Move s e s' last)
    (halive : s.phase ≠ .ended) (hended : s'.phase = .ended)
    (hqueue : s.queue = .disconnect :: behind)
    (hlast : last = .handled .disconnect :: .entered .disconnected ::
      behind.flatMap (refusal s.abandoned)) (hlater : s'.run fs = some (t, later)) :
    Obeyed out (out ++ last ++ later) behind where
  queued := by rw [queuedIn_eq hrun halive, hqueue]
  handled := by
    have hrefused : handledIn (behind.flatMap (refusal (κ := κ) s.abandoned)) = [] :=
      handledIn_of_refuses refuses_of_refusal
    have hquiet : handledIn later = [] := handledIn_of_refuses (quiet_of_run hlater hended).2.2
    simp only [handledIn, List.filterMap_append] at hrefused hquiet ⊢
    simp [hlast, hrefused, hquiet]
  unsent ticket c points hmem := by
    have hframes := (refused_of_ending hrun hmove halive hended
      (hqueue ▸ List.mem_cons_of_mem _ hmem)).1
    have hlast' : frames ticket last = [] := hlast ▸ frames_refusals s.abandoned behind
    rw [frames_append, frames_append, hframes, hlast',
      frames_of_refuses (quiet_of_run hlater hended).2.2]
    rfl

theorem returns_of_ended (call : Enrolment κ) (hended : s.phase = .ended) (hheld : s.held = true) :
    ∃ s', s.Returns call s' (.error .connectionClosed) := by
  obtain ⟨m, first, hfirst, hphase, hcalls⟩ : ∃ m first, s.step call.event = some (m, first) ∧
      m.phase = .ended ∧ m.calls = s.calls ++ [call.command] := by
    cases call with
    | subscribe c k => exact ⟨_, _, step_of_move (.subscribe hheld), hended, rfl⟩
    | unsubscribe c => exact ⟨_, _, step_of_move (.unsubscribe hheld), hended, rfl⟩
  have hcall : m.calls[s.calls.length]? = some call.command := by rw [hcalls]; simp
  obtain ⟨s', out, hdeclines⟩ := declines_of_call hphase hcall
  exact ⟨s', m, first, [], m, [], _, out, hfirst, rfl, rfl, hcall, hdeclines.step, hdeclines.reply⟩

theorem error_of_returns {call : Enrolment κ} {answer : Except StreamError Unit}
    (hended : s.phase = .ended) (h : s.Returns call s' answer) :
    answer = .error .connectionClosed := by
  obtain ⟨m, first, fs, n, between, i, out, hfirst, hbetween, -, hcall, hsecond, rfl⟩ := h
  have hm := (state_of_ended (move_of_step hfirst) hended).1
  obtain ⟨u, last, hdeclines⟩ := declines_of_call (quiet_of_run hbetween hm).1 hcall
  obtain ⟨-, rfl⟩ := Prod.mk.inj (Option.some.inj (hdeclines.step.symm.trans hsecond))
  exact hdeclines.reply

theorem closed_of_ended (call : Enrolment κ) (hended : s.phase = .ended) : s.Closed call.ask where
  ends hheld := by
    obtain ⟨s', hreturns⟩ := returns_of_ended call hended hheld
    cases call with
    | subscribe c k => exact ⟨s', _, .subscribe hreturns .done⟩
    | unsubscribe c => exact ⟨s', _, .unsubscribe hreturns .done⟩
  closed s' answer h := by
    have hreturns := returns_of_ask h
    obtain rfl := error_of_returns hended hreturns
    refine ⟨rfl, fun c hc => ?_⟩
    rw [(registry_of_returns hreturns).2, Registry.mem_channels_iff, Registry.contains,
      call.find?_undo_change] at hc
    split_ifs at hc with hchannel
    · cases hc
    · exact (Registry.mem_channels_iff _ _).2 hc

theorem Closed.map {α β : Type} {operation : Exchange κ (Except StreamError α)} (f : α → β)
    (h : s.Closed operation) : s.Closed (operation.map (·.map f)) where
  ends hheld := by
    obtain ⟨s', answer, hconverses⟩ := h.ends hheld
    exact ⟨s', _, hconverses.map _⟩
  closed s' answer hconverses := by
    obtain ⟨outcome, houtcome, rfl⟩ := converses_of_map hconverses
    obtain ⟨rfl, hchannels⟩ := h.closed s' outcome houtcome
    exact ⟨rfl, hchannels⟩

theorem closed_subscribe {access : Access} (hended : s.phase = .ended) (hpush : access.hasPush = true)
    (stream : Stream) (callback : κ) (downlink : Bool) :
    s.Closed (stream.subscribe access callback downlink) := by
  rw [Stream.subscribe, if_pos hpush]
  exact closed_of_ended (.subscribe _ callback) hended

theorem absorbs_of_run {policy : ReconnectPolicy} {past : List (Effect κ)}
    (hrun : (connect policy).run es = some (s, past)) (hended : s.phase = .ended)
    (hlater : s.run fs = some (t, later)) : Absorbs s t past later := by
  obtain ⟨ht, hstate, hquiet⟩ := quiet_of_run hlater hended
  have hall : (connect policy).run (es ++ fs) = some (t, past ++ later) :=
    run_append_iff.2 ⟨_, _, _, hrun, hlater, rfl⟩
  refine ⟨ht, hstate, hquiet, undone_of_run hlater hended, fun ticket hticket hnot => ?_,
    fun i command hcall => declines_of_call ht hcall,
    fun access stream callback downlink hpush => closed_subscribe ht hpush stream callback downlink,
    fun α access stream feed updates downlink hpush =>
      (closed_subscribe ht hpush stream feed downlink).map _,
    fun access stream downlink hpush => ?_⟩
  · have haccounts := accounts_of_run hall
    rw [haccounts.tickets] at hticket
    have hstands := haccounts.stands ticket _ (List.getElem?_eq_getElem hticket)
    rcases hstands.answers_eq with hnone | ⟨inserted, hone⟩
    · exact Or.inr ⟨hnone, pending_of_unanswered hall ht (haccounts.tickets ▸ hticket) hnone⟩
    · cases inserted with
      | false => exact Or.inl hone
      | true => exact absurd (yes_before hquiet hone) hnot
  · rw [Stream.unsubscribe, if_pos hpush]
    exact closed_of_ended (.unsubscribe _) ht

end Client
end SeriesClient.Push
