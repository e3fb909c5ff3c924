import SeriesClient.Proofs.Push.Move
import SeriesClient.Proofs.Steps

/-! Runs of the push client, taken apart into its moves, and what is said of a move again and again:
what a frame and a dropped queue bring about, and that a loop that has ended stays so. -/

namespace SeriesClient.Push

def Phase.isUp : Phase → Bool
  | .opening | .announcing _ _ | .serving _ => true
  | _ => false

/-- The channel on which a call begins, which changes what is registered for it. -/
def Event.calledOn? {κ : Type} : Event κ → Option String
  | .callSubscribe c _ | .callUnsubscribe c => some c
  | _ => none

namespace Client

variable {κ : Type} {start s s' : Client κ} {es fs : List (Event κ)} {e : Event κ}
  {out : List (Effect κ)}

/-- A call that does its second step leaves the line of those under way as it was around it. -/
theorem split_at_call {i : Nat} {command : Command} (h : s.calls[i]? = some command) :
    ∃ before after, s.calls = before ++ command :: after ∧
      s.calls.eraseIdx i = before ++ after := by
  obtain ⟨hi, rfl⟩ := List.getElem?_eq_some_iff.1 h
  refine ⟨s.calls.take i, s.calls.drop (i + 1), ?_, List.eraseIdx_eq_take_drop_succ _ _⟩
  rw [List.getElem_cons_drop, List.take_append_drop]

theorem receive_cases (s : Client κ) (frame : Frame) :
    s.receive frame = [] ∨ (∃ payload, s.receive frame = [.pong payload]) ∨
      ∃ callback update, s.receive frame = [.ran callback update] := by
  cases frame with
  | ping payload => exact Or.inr (Or.inl ⟨payload, rfl⟩)
  | other => exact Or.inl rfl
  | data bytes =>
    simp only [receive, dispatch]
    split
    · exact Or.inl rfl
    · next update _ =>
      split
      · exact Or.inl rfl
      · next callback _ => exact Or.inr (Or.inr ⟨callback, update, rfl⟩)

/-- A dropped queue only answers those who wait for an insert. -/
theorem mem_refusals {abandoned : List Nat} {queue : List Command} {effect : Effect κ}
    (h : effect ∈ queue.flatMap (refusal abandoned)) :
    ∃ ticket, effect = .answered ticket false := by
  obtain ⟨command, -, h⟩ := List.mem_flatMap.1 h
  cases command with
  | insert ticket c points =>
    simp only [refusal] at h
    split_ifs at h
    · cases h
    · exact ⟨ticket, List.mem_singleton.1 h⟩
  | _ => cases h

theorem run_cons_iff :
    s.run (e :: es) = some (s', out) ↔
      ∃ m first rest, Move s e m first ∧ m.run es = some (s', rest) ∧ out = first ++ rest := by
  simp only [run, runSteps_cons_iff, step_iff_move]

theorem run_singleton_iff : s.run [e] = some (s', out) ↔ Move s e s' out := by
  rw [run, runSteps_singleton_iff, step_iff_move]

theorem run_append_iff :
    s.run (es ++ fs) = some (s', out) ↔
      ∃ m first rest, s.run es = some (m, first) ∧ m.run fs = some (s', rest) ∧
        out = first ++ rest :=
  runSteps_append_iff

theorem run_induction {P : List (Event κ) → Client κ → List (Effect κ) → Prop}
    (nil : P [] start [])
    (snoc : ∀ {es s out e s' last}, start.run es = some (s, out) → P es s out →
      Move s e s' last → P (es ++ [e]) s' (out ++ last))
    (h : start.run es = some (s, out)) : P es s out :=
  runSteps_induction nil (fun hes ih hstep => snoc hes ih (move_of_step hstep)) h

theorem not_ended_of_dials (h : s.Dials e) : s.phase ≠ .ended := by
  rcases dials_iff.1 h with ⟨-, hphase⟩ | ⟨-, delay, hphase⟩ <;> simp [hphase]

theorem not_ended_of_fails (h : s.Fails e) : s.phase ≠ .ended := by
  rcases fails_iff.1 h with ⟨-, hphase⟩ | ⟨-, active, hphase⟩ <;> simp [hphase]

/-- A loop that has ended does not come back. -/
theorem not_ended_of_move (hmove : Move s e s' out) (h : s'.phase ≠ .ended) :
    s.phase ≠ .ended := by
  cases hmove with
  | dial hdials => exact not_ended_of_dials hdials
  | wait hfails _ _ => exact not_ended_of_fails hfails
  | _ => simp_all

/-- After its end the loop tells nothing new. -/
theorem state_of_ended (hmove : Move s e s' out) (hended : s.phase = .ended) :
    s'.phase = .ended ∧ s'.state = s.state := by
  cases hmove with
  | dial hdials => exact absurd hended (not_ended_of_dials hdials)
  | wait hfails _ _ => exact absurd hended (not_ended_of_fails hfails)
  | fail hfails _ => exact absurd hended (not_ended_of_fails hfails)
  | _ => simp_all

theorem policy_of_move (hmove : Move s e s' out) : s'.policy = s.policy := by
  cases hmove <;> rfl

theorem policy_of_run (hrun : start.run es = some (s, out)) : s.policy = start.policy :=
  run_induction (P := fun _ s _ => s.policy = start.policy) rfl
    (fun _ ih hmove => (policy_of_move hmove).trans ih) hrun

/-- As long as the loop lives, the client tells that it is connected just when a socket is up. -/
theorem connected_iff_isUp {policy : ReconnectPolicy}
    (hrun : (connect policy).run es = some (s, out)) (halive : s.phase ≠ .ended) :
    s.state = .connected ↔ s.phase.isUp = true := by
  revert halive
  refine run_induction (P := fun _ s _ => s.phase ≠ .ended →
    (s.state = .connected ↔ s.phase.isUp = true)) ?_ ?_ hrun
  · simp [connect, Phase.isUp]
  · intro es s out e s' last _ ih hmove halive
    have hs := ih (not_ended_of_move hmove halive)
    cases hmove <;> simp_all [Phase.isUp]

end Client
end SeriesClient.Push
