import SeriesClient.Proofs.Insert.OneWrite
import SeriesClient.Proofs.Push.Terminal

/-! Inserts over a push client whose loop has been told to stop or has given up. None of them goes out
on a socket any more: each is told no and makes its one request, and nothing at the push client can
keep it from that. -/

namespace SeriesClient

open Push

variable {κ : Type}

namespace Insertion

variable {w : Insertion κ} {i : Nat} {log : List (Note κ)}

def Open (w : Insertion κ) : Prop := ∀ outcome, ¬ w.Ends outcome

theorem Stage.told_of_open (h : w.Stage i log) (hopen : w.Open) (t : Nat)
    (ht : w.ticket = some t) :
    answers t (pushed log) = [] ∨ answers t (pushed log) = [false] := by
  cases h with
  | calling hticket htalk hreads => exact Or.inl (hreads.told t ht)
  | awaiting hticket htalk hreads => exact Or.inl (hreads.told t ht)
  | inserted hticket hends hreads => exact absurd hends (hopen _)
  | falling htalk hreads => exact Or.inr (hreads.told t ht)
  | requested htalk hreads => exact Or.inr (hreads.told t ht)
  | written hends hreads => exact absurd hends (hopen _)

end Insertion

namespace Desk

variable {policy : ReconnectPolicy} {d d' n : Desk κ} {o : Occurrence κ}
  {os before after : List (Occurrence κ)} {es : List (Event κ)} {log new rest : List (Note κ)}

theorem client_of_turn (hturn : Turn d o d' new) :
    d'.client = d.client ∧ pushed new = [] ∨ ∃ e, d.client.Move e d'.client (pushed new) := by
  cases hturn with
  | begin => exact Or.inl ⟨rfl, rfl⟩
  | request hw htalk => exact Or.inl ⟨rfl, rfl⟩
  | reply hw htalk => exact Or.inl ⟨rfl, rfl⟩
  | call hw htalk hmove =>
    rw [pushed_map]
    exact Or.inr ⟨_, hmove⟩
  | push hmove =>
    rw [pushed_map]
    exact Or.inr ⟨_, hmove⟩

theorem client_of_run (hrun : d.run os = some (d', new)) :
    ∃ es, d.client.run es = some (d'.client, pushed new) := by
  refine runSteps_induction (P := fun _ d' new => ∃ es, d.client.run es = some (d'.client, pushed new))
    ⟨[], rfl⟩ ?_ hrun
  rintro os m new o d' last - ⟨es, hes⟩ hstep
  rw [pushed_append]
  rcases client_of_turn (turn_of_step hstep) with ⟨hclient, hquiet⟩ | ⟨e, hmove⟩
  · exact ⟨es, by rw [hclient, hquiet, List.append_nil]; exact hes⟩
  · exact ⟨es ++ [e], Client.run_append_iff.2
      ⟨_, _, _, hes, Client.run_singleton_iff.2 hmove, rfl⟩⟩

/-- For an insert that had not ended when the loop had, nothing has gone out and nothing will. -/
theorem frames_of_open {i t : Nat} {w : Insertion κ} (hn : Kept policy before n log es)
    (hended : n.client.phase = .ended) (hrun : n.run after = some (d, rest))
    (hw : d.inserts[i]? = some w) (ht : w.ticket = some t)
    (hopen : ∀ x, n.inserts[i]? = some x → x.Open) : frames t (pushed (log ++ rest)) = [] := by
  obtain ⟨fs, hfs⟩ := client_of_run hrun
  rw [pushed_append, frames_append, Client.frames_of_refuses (Client.quiet_of_run hfs hended).2.2,
    List.append_nil]
  have haccounts := Client.accounts_of_run hn.run
  rcases (later_of_run hrun).since i w t hw ht with ⟨x, hx, hxt⟩ | hlater
  · have hstands := haccounts.stands t x.parcel (hn.parcel i x t hx hxt)
    rcases (hn.stage i x hx).told_of_open (hopen x hx) t hxt with hnone | hno
    · exact hstands.of_none hnone
    · exact hstands.of_no hno
  · exact congrArg Slip.frames (haccounts.blank t hlater)

/-- The insert can be brought to the end that the answer gives it. -/
def Finishes (d : Desk κ) (i : Nat) (answer : Except StreamError Json) : Prop :=
  ∃ os d' new w, d.run os = some (d', new) ∧ d'.inserts[i]? = some w ∧
    w.Ends (answer.map fun _ => ())

variable {i : Nat} {w : Insertion κ} {answer : Except StreamError Json}

theorem Finishes.of_turn (hturn : Turn d o d' new) (h : d'.Finishes i answer) :
    d.Finishes i answer := by
  obtain ⟨os, d'', rest, w, hrun, hw, hends⟩ := h
  exact ⟨o :: os, d'', new ++ rest, w,
    runSteps_cons_iff.2 ⟨_, _, _, step_of_turn hturn, hrun, rfl⟩, hw, hends⟩

theorem inserts_put_self (hw : d.inserts[i]? = some w) (w' : Insertion κ) :
    (d.put i w').inserts[i]? = some w' := by
  rw [put, List.getElem?_set_self (List.getElem?_eq_some_iff.1 hw).1]

theorem finishes_of_requested (hw : d.inserts[i]? = some w)
    (htalk : w.talk = .requested Insertion.afterReply) : d.Finishes i answer := by
  exact .of_turn (.reply hw htalk) ⟨[], _, [], _, rfl, inserts_put_self hw _, rfl⟩

theorem finishes_of_falling (hw : d.inserts[i]? = some w)
    (htalk : w.talk = .speaking (w.stream.insertOverHttp w.points w.restamp)) :
    d.Finishes i answer := by
  exact .of_turn (.request hw htalk) (finishes_of_requested (inserts_put_self hw _) rfl)

/-- An insert that is told no goes on to the API. -/
theorem finishes_of_told {client : Client κ} {inserts : List (Insertion κ)} {out : List (Effect κ)}
    {t : Nat} (hw : inserts[i]? = some w) (htalk : w.talk = .awaiting t w.afterPush)
    (hno : answers t out = [false]) :
    Desk.Finishes { client, inserts := inserts.map (·.hear out) } i answer := by
  have hheard : (inserts.map (·.hear out))[i]? =
      some { w with talk := .speaking (w.afterPush false) } := by
    rw [List.getElem?_map, hw, Option.map_some, Insertion.hear_of_answers htalk hno]
  exact finishes_of_falling hheard rfl

theorem finishes_of_awaiting {t : Nat} {u : Client κ} {out : List (Effect κ)} {j : Nat}
    (hw : d.inserts[i]? = some w) (htalk : w.talk = .awaiting t w.afterPush)
    (hstep : d.client.step (.enqueue j) = some (u, out)) (hno : answers t out = [false]) :
    d.Finishes i answer := by
  exact .of_turn (.push (Client.move_of_step hstep)) (finishes_of_told hw htalk hno)

theorem finishes_of_calling (hheld : d.client.held = true) (hstate : d.client.state ≠ .connected)
    (hw : d.inserts[i]? = some w)
    (htalk : w.talk = .speaking (.ask (.pushInsert w.stream.name w.points) w.afterPush)) :
    d.Finishes i answer := by
  have hmove : d.client.Move (.callInsert w.stream.name w.points) _ _ := .insertOffline hheld hstate
  refine .of_turn (.call hw htalk hmove) (finishes_of_told (inserts_put_self (d := d) hw _) rfl ?_)
  exact answers_answered _ _

theorem finishes_of_open (h : Kept policy os d log es) (hended : d.client.phase = .ended)
    (hstate : d.client.state ≠ .connected) (hheld : d.client.held = true)
    (hw : d.inserts[i]? = some w) (hopen : w.Open) : d.Finishes i answer := by
  cases h.stage i w hw with
  | calling hticket htalk hreads => exact finishes_of_calling hheld hstate hw htalk
  | @awaiting t hticket htalk hreads =>
    have hissued : t < d.client.tickets := by
      rw [(Client.accounts_of_run h.run).tickets]
      exact (List.getElem?_eq_some_iff.1 (h.parcel i w t hw hticket)).1
    obtain ⟨j, c, points, hcall⟩ :=
      Client.pending_of_unanswered h.run hended hissued (hreads.told t hticket)
    obtain ⟨u, out, hdeclines⟩ := Client.declines_of_call hended hcall
    exact finishes_of_awaiting hw htalk hdeclines.step (hdeclines.answer t c points rfl)
  | falling htalk hreads => exact finishes_of_falling hw htalk
  | requested htalk hreads => exact finishes_of_requested hw htalk
  | inserted hticket hends hreads => exact absurd hends (hopen _)
  | written hends hreads => exact absurd hends (hopen _)

/-- Inserts that had not ended at `n`, seen from `d`: one that has ended since wrote one request and
nothing else, and the others can come to that. -/
structure FallsBack (n d : Desk κ) (log : List (Note κ)) : Prop where
  request : ∀ (i : Nat) (w : Insertion κ) outcome, d.inserts[i]? = some w → w.Ends outcome →
    (∀ x, n.inserts[i]? = some x → x.Open) →
    writes i w.ticket log = [.request (
        if w.restamp then .put (w.stream.name ++ "/data") (Stream.insertBody w.points)
        else .post (w.stream.name ++ "/data") (Stream.insertBody w.points))] ∧
      ∃ answer, replies i log = [answer] ∧ outcome = answer.map fun _ => ()
  finishes : d.client.held = true → ∀ (i : Nat) (w : Insertion κ), d.inserts[i]? = some w → w.Open →
    ∀ answer, d.Finishes i answer

theorem fallsBack_of_run (hn : Kept policy before n log es) (hended : n.client.phase = .ended)
    (hstate : n.client.state ≠ .connected) (hrun : n.run after = some (d, rest))
    (hall : (openWith policy).run (before ++ after) = some (d, log ++ rest)) :
    n.FallsBack d (log ++ rest) := by
  obtain ⟨fs, hd⟩ := kept_of_run hall
  obtain ⟨gs, hgs⟩ := client_of_run hrun
  obtain ⟨hstill, htold, -⟩ := Client.quiet_of_run hgs hended
  refine ⟨fun i w outcome hw hends hopen => ?_, fun hheld i w hw hopen answer => ?_⟩
  · rcases hd.writes_of_ends hw hends with ⟨hwrites, -⟩ | h
    · have hnone := writes_of_no_frame (i := i) fun t ht =>
        frames_of_open hn hended hrun hw ht hopen
      rw [hnone] at hwrites
      obtain ⟨call, -, hcall⟩ := List.mem_map.1 (hwrites ▸ List.mem_singleton_self _)
      cases hcall
    · exact h
  · exact finishes_of_open hd hstill (htold ▸ hstate) hheld hw hopen

/-- A history in which the loop is told to stop, or gives up, at the step from `m` to `n`, and which
goes on to `d`. The loop is then gone for good and tells why. If it was told to stop, it has handled
all that was queued before that, in order and once each, and handles nothing that was queued behind.
Whatever happens later, nothing is told, dialed, sent or passed on: calls are declined, inserts are
told no, and those that had not ended make their one request each. -/
theorem terminal_absorbs {m : Desk κ} (hrun : (openWith policy).run before = some (m, log))
    (hstep : m.step o = some (n, new))
    (hcause : .handled .disconnect ∈ pushed new ∨ .entered .error ∈ pushed new)
    (hlater : n.run after = some (d, rest)) :
    n.client.phase = .ended ∧
    (.handled .disconnect ∈ pushed new → n.client.state = .disconnected ∧ ∃ behind,
      m.client.queue = .disconnect :: behind ∧
      Client.Obeyed (pushed log) (pushed (log ++ new ++ rest)) behind) ∧
    (.entered .error ∈ pushed new → n.client.state = .error) ∧
    (∀ effect ∈ pushed new, effect.Refuses ∨ effect = .handled .disconnect ∨
      effect = .entered n.client.state) ∧
    (∀ ticket c points, .insert ticket c points ∈ m.client.queue →
      answers ticket (pushed (log ++ new)) = [false]) ∧
    n.client.Absorbs d.client (pushed (log ++ new)) (pushed rest) ∧
    n.FallsBack d (log ++ new ++ rest) := by
  obtain ⟨es, hm⟩ := kept_of_run hrun
  have hrun' : (openWith policy).run (before ++ [o]) = some (n, log ++ new) :=
    runSteps_concat_iff.2 ⟨m, log, new, hrun, hstep, rfl⟩
  obtain ⟨fs, hn⟩ := kept_of_run hrun'
  obtain ⟨gs, hgs⟩ := client_of_run hlater
  obtain ⟨e, hmove⟩ : ∃ e, m.client.Move e n.client (pushed new) := by
    refine (client_of_turn (turn_of_step hstep)).resolve_left fun h => ?_
    simp [h.2] at hcause
  have hending := Client.ending_of_move hmove hcause
  refine ⟨hending.ended, fun hstop => ?_, hending.failed, hending.quiet,
    fun ticket c points hmem => ?_, Client.absorbs_of_run hn.run hending.ended hgs,
    fallsBack_of_run hn hending.ended (hending.state_ne hcause) hlater
      (runSteps_append_iff.2 ⟨n, _, _, hrun', hlater, rfl⟩)⟩
  · obtain ⟨hstate, behind, hqueue, hlast⟩ := hending.stopped hstop
    refine ⟨hstate, behind, hqueue, ?_⟩
    rw [pushed_append, pushed_append]
    exact Client.obeyed_of_ending hm.run hmove hending.alive hending.ended hqueue hlast hgs
  · rw [pushed_append]
    exact (Client.refused_of_ending hm.run hmove hending.alive hending.ended hmem).2

/-- One insert goes out before the loop is told to stop, one waits behind that and one begins after
it. -/
def farewell : List (Occurrence Nat) :=
  [.push .start, .push .opened, .push .recall, .push .serve,
    .begin ⟨true, true⟩ (.named "u/d/s") [.unstamped .null] false, .ask 0, .push (.enqueue 0),
    .push .callDisconnect, .push (.enqueue 0),
    .begin ⟨true, true⟩ (.named "u/d/s") onOff false, .ask 1, .push (.enqueue 0),
    .push (.callSubscribe "a" 1), .push (.enqueue 0), .push (.handle true)]

def aftermath : List (Occurrence Nat) :=
  [.begin ⟨true, true⟩ (.named "u/d/s") onOff true, .ask 2, .ask 2, .ask 1, .reply 2 (.ok .null),
    .push (.callSubscribe "b" 2), .push (.enqueue 0), .reply 1 (.error .connectionClosed)]

theorem terminal_absorbs_farewell : ∃ m log n new d rest,
    (openWith {}).run farewell = some (m, log) ∧
    m.step (.push (.handle true)) = some (n, new) ∧ n.run aftermath = some (d, rest) ∧
    n.client.state = .disconnected ∧ d.client.state = n.client.state ∧
    d.client.registry.channels = ["a"] ∧
    handledIn (pushed (log ++ new ++ rest)) = [.insert 0 "u/d/s" [.unstamped .null], .disconnect] ∧
    writes 0 (some 0) (log ++ new ++ rest) = [.frame "u/d/s" [.unstamped .null]] ∧
    writes 1 (some 1) (log ++ new ++ rest) =
      [.request (.post "u/d/s/data" (Stream.insertBody onOff))] ∧
    writes 2 (some 2) (log ++ new ++ rest) =
      [.request (.put "u/d/s/data" (Stream.insertBody onOff))] := by
  have hrun : (openWith {}).run farewell = some (_, _) := rfl
  obtain ⟨-, hstopped, -, -, -, habsorbs, hfallsBack⟩ := @terminal_absorbs Nat {} _ _
    (.push (.handle true)) _ aftermath _ _ _ _ hrun rfl (Or.inl (List.Mem.head _)) rfl
  obtain ⟨hstate, behind, -, hobeyed⟩ := hstopped (List.Mem.head _)
  refine ⟨_, _, _, _, _, _, hrun, rfl, rfl, hstate, habsorbs.state, rfl, hobeyed.handled, rfl,
    (hfallsBack.request 1 _ _ rfl rfl ?_).1, (hfallsBack.request 2 _ _ rfl rfl nofun).1⟩
  rintro x hx outcome hends
  obtain rfl := Option.some.inj hx
  cases hends

end Desk

end SeriesClient
