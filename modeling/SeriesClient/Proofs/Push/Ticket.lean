import SeriesClient.Proofs.Push.Run

/-! One insert on its way through the push client. Its slip holds all that concerns its ticket: where
the command is, whether anyone waits for it, how it was answered and what went out. A step passes a
slip on in one of a few ways, and a slip stands in one of six. -/

namespace SeriesClient.Push

abbrev Parcel := String × List Datapoint

def Command.parcel? (t : Nat) : Command → Option Parcel
  | .insert ticket c points => if ticket = t then some (c, points) else none
  | _ => none

abbrev parcels (t : Nat) (commands : List Command) : List Parcel :=
  commands.filterMap (Command.parcel? t)

theorem parcels_cons_none {t : Nat} {command : Command} {commands : List Command}
    (h : command.parcel? t = none) : parcels t (command :: commands) = parcels t commands :=
  List.filterMap_cons_none h

variable {κ : Type}

def Event.parcel? : Event κ → Option Parcel
  | .callInsert c points => some (c, points)
  | _ => none

/-- The parcels of the calls to insert, each in the place of its ticket. -/
def issued (es : List (Event κ)) : List Parcel := es.filterMap Event.parcel?

theorem issued_append {es fs : List (Event κ)} : issued (es ++ fs) = issued es ++ issued fs :=
  List.filterMap_append

theorem issued_of_quiet {e : Event κ} (h : e.parcel? = none) : issued [e] = [] :=
  List.filterMap_cons_none h

theorem issued_kept {es fs : List (Event κ)} {t : Nat} {p : Parcel} (h : (issued es)[t]? = some p) :
    (issued (es ++ fs))[t]? = some p := by
  rw [issued_append, List.getElem?_append_left (List.getElem?_eq_some_iff.1 h).1, h]

/-- How the insert under the ticket was answered. -/
def answers (t : Nat) (out : List (Effect κ)) : List Bool :=
  out.filterMap fun
    | .answered ticket inserted => if ticket = t then some inserted else none
    | _ => none

/-- What went out on a socket under the ticket. -/
def frames (t : Nat) (out : List (Effect κ)) : List Parcel :=
  out.filterMap fun
    | .forwarded ticket c points => if ticket = t then some (c, points) else none
    | _ => none

structure Slip where
  called : List Parcel
  queued : List Parcel
  gone : Bool
  answers : List Bool
  frames : List Parcel

def Slip.blank : Slip := ⟨[], [], false, [], []⟩

/-- Where the insert of a parcel can stand. -/
inductive Slip.Stands (p : Parcel) : Slip → Prop where
  | unissued : Stands p .blank
  | called : Stands p ⟨[p], [], false, [], []⟩
  | queued : Stands p ⟨[], [p], false, [], []⟩
  /-- Nobody waits for it any more; the command may still be in the queue. -/
  | stale (queued : List Parcel) : Stands p ⟨[], queued, true, [false], []⟩
  | sent : Stands p ⟨[], [], false, [true], [p]⟩
  | refused : Stands p ⟨[], [], false, [false], []⟩

/-- What a step can do to a slip. -/
inductive Slip.Passes (a : Slip) : Slip → Prop where
  | aside : Passes a a
  | queued {p : Parcel} {before after : List Parcel} (hcall : a.called = before ++ p :: after) :
      Passes a { a with called := before ++ after, queued := a.queued ++ [p] }
  | declined {p : Parcel} {before after : List Parcel} (hcall : a.called = before ++ p :: after) :
      Passes a { a with called := before ++ after, answers := a.answers ++ [false] }
  | givenUp (hqueue : a.queued ≠ []) (hgone : a.gone = false) :
      Passes a { a with gone := true, answers := a.answers ++ [false] }
  | dropped :
      Passes a
        { a with
          queued := []
          answers := a.answers ++ if a.gone then [] else a.queued.map fun _ => false }
  | skipped {p : Parcel} {rest : List Parcel} (hqueue : a.queued = p :: rest)
      (hgone : a.gone = true) : Passes a { a with queued := rest }
  | sent {p : Parcel} {rest : List Parcel} (hqueue : a.queued = p :: rest)
      (hgone : a.gone = false) :
      Passes a
        { a with queued := rest, answers := a.answers ++ [true], frames := a.frames ++ [p] }
  | unsent {p : Parcel} {rest : List Parcel} (hqueue : a.queued = p :: rest)
      (hgone : a.gone = false) :
      Passes a { a with queued := rest, answers := a.answers ++ [false] }

theorem Slip.Stands.passes {p : Parcel} {a b : Slip} (h : a.Stands p) (hpasses : a.Passes b) :
    b.Stands p := by
  cases hpasses with
  | aside => exact h
  | queued hcall =>
    cases h with
    | called =>
      obtain ⟨rfl, rfl, rfl⟩ := by simpa [List.singleton_eq_append_iff] using hcall
      exact .queued
    | _ => simp [Slip.blank] at hcall
  | declined hcall =>
    cases h with
    | called =>
      obtain ⟨rfl, rfl, rfl⟩ := by simpa [List.singleton_eq_append_iff] using hcall
      exact .refused
    | _ => simp [Slip.blank] at hcall
  | givenUp hqueue hgone =>
    cases h with
    | queued => exact .stale _
    | stale queued => cases hgone
    | _ => exact absurd rfl hqueue
  | dropped =>
    cases h with
    | unissued => exact .unissued
    | called => exact .called
    | queued => exact .refused
    | stale queued => exact .stale []
    | sent => exact .sent
    | refused => exact .refused
  | skipped hqueue hgone =>
    cases h with
    | stale queued => exact .stale _
    | _ => cases hgone
  | sent hqueue hgone =>
    cases h with
    | queued =>
      obtain ⟨rfl, rfl⟩ := List.cons.inj hqueue
      exact .sent
    | stale queued => cases hgone
    | _ => cases hqueue
  | unsent hqueue hgone =>
    cases h with
    | queued =>
      obtain ⟨rfl, rfl⟩ := List.cons.inj hqueue
      exact .refused
    | stale queued => cases hgone
    | _ => cases hqueue

theorem Slip.blank_passes {b : Slip} (hpasses : Slip.blank.Passes b) : b = .blank := by
  cases hpasses with
  | aside => rfl
  | dropped => rfl
  | queued hcall => simp [Slip.blank] at hcall
  | declined hcall => simp [Slip.blank] at hcall
  | givenUp hqueue hgone => exact absurd rfl hqueue
  | skipped hqueue hgone => cases hgone
  | sent hqueue hgone => cases hqueue
  | unsent hqueue hgone => cases hqueue

section
variable {p : Parcel} {a : Slip}

theorem Slip.Stands.of_gone (h : a.Stands p) (hgone : a.gone = true) : a.frames = [] := by
  cases h with
  | stale queued => rfl
  | _ => cases hgone

theorem Slip.Stands.of_yes (h : a.Stands p) (hyes : a.answers = [true]) : a.frames = [p] := by
  cases h with
  | sent => rfl
  | _ => cases hyes

theorem Slip.Stands.of_no (h : a.Stands p) (hno : a.answers = [false]) : a.frames = [] := by
  cases h with
  | stale queued => rfl
  | refused => rfl
  | _ => cases hno

theorem Slip.Stands.of_none (h : a.Stands p) (hnone : a.answers = []) : a.frames = [] := by
  cases h with
  | sent => cases hnone
  | _ => rfl

theorem Slip.Stands.answers_eq (h : a.Stands p) :
    a.answers = [] ∨ ∃ inserted, a.answers = [inserted] := by
  cases h with
  | stale queued => exact Or.inr ⟨false, rfl⟩
  | sent => exact Or.inr ⟨true, rfl⟩
  | refused => exact Or.inr ⟨false, rfl⟩
  | _ => exact Or.inl rfl

end

section
variable {t : Nat} {past out : List (Effect κ)}

@[simp] theorem answers_nil : answers t ([] : List (Effect κ)) = [] := rfl

@[simp] theorem answers_append : answers t (past ++ out) = answers t past ++ answers t out :=
  List.filterMap_append

@[simp] theorem frames_append : frames t (past ++ out) = frames t past ++ frames t out :=
  List.filterMap_append

@[simp] theorem answers_answered (t : Nat) (inserted : Bool) :
    answers t [(.answered t inserted : Effect κ)] = [inserted] := by
  simp [answers]

@[simp] theorem frames_answered (t ticket : Nat) (inserted : Bool) :
    frames t [(.answered ticket inserted : Effect κ)] = [] := rfl

end

namespace Client

variable {s s' : Client κ} {e : Event κ} {out past : List (Effect κ)} {t : Nat}

def slip (s : Client κ) (t : Nat) (past : List (Effect κ)) : Slip where
  called := parcels t s.calls
  queued := parcels t s.queue
  gone := s.abandoned.contains t
  answers := answers t past
  frames := frames t past

theorem answers_refusals (abandoned : List Nat) (queue : List Command) :
    answers t (queue.flatMap (refusal (κ := κ) abandoned)) =
      if abandoned.contains t then []
      else (parcels t queue).map fun _ => false := by
  induction queue with
  | nil => simp
  | cons command queue ih =>
    rw [List.flatMap_cons, answers_append, ih]
    cases command with
    | insert ticket c points =>
      by_cases ht : ticket = t
      · subst ht
        by_cases hgone : ticket ∈ abandoned <;> simp [refusal, answers, Command.parcel?, hgone]
      · by_cases hgone : ticket ∈ abandoned <;> simp [refusal, answers, Command.parcel?, ht, hgone]
    | _ => simp [refusal, List.filterMap_cons, Command.parcel?]

theorem frames_refusals (abandoned : List Nat) (queue : List Command) :
    frames t (queue.flatMap (refusal (κ := κ) abandoned)) = [] := by
  refine List.filterMap_eq_nil_iff.2 fun effect h => ?_
  obtain ⟨ticket, rfl⟩ := mem_refusals h
  rfl

theorem slip_aside (hcalls : parcels t s'.calls = parcels t s.calls)
    (hqueue : parcels t s'.queue = parcels t s.queue)
    (hgone : s'.abandoned.contains t = s.abandoned.contains t) (hnone : answers t out = [])
    (hquiet : frames t out = []) : (s.slip t past).Passes (s'.slip t (past ++ out)) := by
  have h : s'.slip t (past ++ out) = s.slip t past := by
    simp only [slip, hcalls, hqueue, hgone, answers_append, hnone, frames_append, hquiet,
      List.append_nil]
  rw [h]
  exact .aside

theorem slip_dropped (first : List (Effect κ)) (hcalls : s'.calls = s.calls)
    (hqueue : s'.queue = []) (hgone : s'.abandoned = s.abandoned) (hnone : answers t first = [])
    (hquiet : frames t first = []) :
    (s.slip t past).Passes
      (s'.slip t (past ++ (first ++ s.queue.flatMap (refusal s.abandoned)))) := by
  have h := Slip.Passes.dropped (a := s.slip t past)
  simpa [slip, hcalls, hqueue, hgone, hnone, hquiet, answers_refusals, frames_refusals] using h

theorem slip_declined {i : Nat} {command : Command} (hcall : s.calls[i]? = some command)
    (hrest : s'.calls = s.calls.eraseIdx i)
    (hqueue : s'.queue = s.queue) (hgone : s'.abandoned = s.abandoned) (hquiet : frames t out = [])
    (hanswers : answers t out = ((command.parcel? t).map fun _ => false).toList) :
    (s.slip t past).Passes (s'.slip t (past ++ out)) := by
  obtain ⟨before, after, hcalls, herase⟩ := split_at_call hcall
  rw [herase] at hrest
  cases hp : command.parcel? t with
  | none =>
    exact slip_aside (by simp [hcalls, hrest, hp]) (by rw [hqueue]) (by rw [hgone])
      (by simp [hanswers, hp]) hquiet
  | some p =>
    have hcalled : (s.slip t past).called = parcels t before ++ p :: parcels t after := by
      simp [slip, hcalls, hp]
    have h := Slip.Passes.declined hcalled
    simpa [slip, hrest, hqueue, hgone, hquiet, hanswers, hp] using h

theorem slip_queued {i : Nat} {command : Command} (hcall : s.calls[i]? = some command)
    (hrest : s'.calls = s.calls.eraseIdx i) (hqueue : s'.queue = s.queue ++ [command])
    (hgone : s'.abandoned = s.abandoned) :
    (s.slip t past).Passes (s'.slip t (past ++ [.queued command])) := by
  obtain ⟨before, after, hcalls, herase⟩ := split_at_call hcall
  rw [herase] at hrest
  cases hp : command.parcel? t with
  | none =>
    exact slip_aside (by simp [hcalls, hrest, hp]) (by simp [hqueue, hp]) (by rw [hgone]) rfl rfl
  | some p =>
    have hcalled : (s.slip t past).called = parcels t before ++ p :: parcels t after := by
      simp [slip, hcalls, hp]
    have h := Slip.Passes.queued hcalled
    simpa [slip, hrest, hqueue, hgone, hp, answers, frames] using h

theorem slip_handled {command : Command} {rest : List Command} (hqueue : s.queue = command :: rest)
    (hrest : s'.queue = rest) (hcalls : s'.calls = s.calls) (hgone : s'.abandoned = s.abandoned)
    (hp : command.parcel? t = none) (hnone : answers t out = []) (hquiet : frames t out = []) :
    (s.slip t past).Passes (s'.slip t (past ++ out)) :=
  slip_aside (by rw [hcalls]) (by rw [hqueue, hrest, parcels_cons_none hp]) (by rw [hgone]) hnone
    hquiet

theorem queued_of_queue {c : String} {points : List Datapoint} {rest : List Command}
    (hqueue : s.queue = .insert t c points :: rest) (past : List (Effect κ)) :
    (s.slip t past).queued = (c, points) :: parcels t rest := by
  simp [slip, hqueue, Command.parcel?]

theorem slip_givenUp {ticket : Nat} (hawaits : s.awaits ticket = true) :
    (s.slip t past).Passes
      ({ s with abandoned := ticket :: s.abandoned }.slip t
        (past ++ [Effect.answered ticket false])) := by
  by_cases ht : ticket = t
  · subst ht
    simp only [awaits, Bool.and_eq_true, Bool.not_eq_true', List.any_eq_true] at hawaits
    obtain ⟨hgone, command, hmem, hticket⟩ := hawaits
    have hqueue : parcels ticket s.queue ≠ [] := by
      intro hnone
      have hp := List.filterMap_eq_nil_iff.1 hnone command hmem
      cases command <;> simp_all [Command.parcel?]
    have h := Slip.Passes.givenUp (a := s.slip ticket past) hqueue hgone
    simpa [slip, answers, frames] using h
  · exact slip_aside rfl rfl (by simp [Ne.symm ht]) (by simp [answers, ht]) rfl

theorem slip_of_handle (taken : Bool) (hmove : Move s (.handle taken) s' out) :
    (s.slip t past).Passes (s'.slip t (past ++ out)) := by
  cases hmove with
  | dial hdials => exact hdials.elim
  | wait hfails _ _ => exact hfails.elim
  | fail hfails _ => exact hfails.elim
  | handleKnown hphase hqueue hactive => exact slip_handled hqueue rfl rfl rfl rfl rfl rfl
  | @handleSubscribe _ active c rest hphase hqueue hactive =>
    cases taken <;> exact slip_handled hqueue rfl rfl rfl rfl rfl rfl
  | @handleUnsubscribe _ active c rest hphase hqueue =>
    cases taken <;> exact slip_handled hqueue rfl rfl rfl rfl rfl rfl
  | @handleStale _ active ticket c points rest hphase hqueue hgone =>
    by_cases ht : ticket = t
    · subst ht
      have h := Slip.Passes.skipped (queued_of_queue hqueue past) (by simpa [slip] using hgone)
      simpa [slip, answers, frames] using h
    · exact slip_handled hqueue rfl rfl rfl (by simp [Command.parcel?, ht]) rfl rfl
  | @handleInsert active ticket c points rest hphase hqueue hgone =>
    by_cases ht : ticket = t
    · subst ht
      have h := Slip.Passes.sent (queued_of_queue hqueue past) (by simpa [slip] using hgone)
      simpa [slip, answers, frames] using h
    · exact slip_handled hqueue rfl rfl rfl (by simp [Command.parcel?, ht]) (by simp [answers, ht])
        (by simp [frames, ht])
  | @handleUnsent active ticket c points rest hphase hqueue hgone =>
    by_cases ht : ticket = t
    · subst ht
      have h := Slip.Passes.unsent (queued_of_queue hqueue past) (by simpa [slip] using hgone)
      simpa [slip, answers, frames] using h
    · exact slip_handled hqueue rfl rfl rfl (by simp [Command.parcel?, ht]) (by simp [answers, ht])
        rfl
  | @handleDisconnect _ active rest hphase hqueue =>
    have hdropped : rest.flatMap (refusal s.abandoned) =
        s.queue.flatMap (refusal (κ := κ) s.abandoned) := by
      rw [hqueue]
      rfl
    rw [hdropped]
    exact slip_dropped [.handled .disconnect, .entered .disconnected] rfl rfl rfl rfl rfl

/-- A ticket that is not the one handed out has its slip passed on. -/
theorem slip_passes (hmove : Move s e s' out) (hother : t < s.tickets ∨ s'.tickets ≤ t) :
    (s.slip t past).Passes (s'.slip t (past ++ out)) := by
  cases hmove with
  | subscribe hheld => exact slip_aside (by simp [Command.parcel?]) rfl rfl rfl rfl
  | unsubscribe hheld => exact slip_aside (by simp [Command.parcel?]) rfl rfl rfl rfl
  | disconnect hheld => exact slip_aside (by simp [Command.parcel?]) rfl rfl rfl rfl
  | insert hheld hstate =>
    have hne : s.tickets ≠ t := by
      simp only at hother
      omega
    exact slip_aside (by simp [Command.parcel?, hne]) rfl rfl rfl rfl
  | insertOffline hheld hstate =>
    have hne : s.tickets ≠ t := by
      simp only at hother
      omega
    exact slip_aside rfl rfl rfl (by simp [answers, hne]) rfl
  | queued hcall hphase hroom => exact slip_queued hcall rfl rfl rfl
  | declinedSubscribe hcall hphase => exact slip_declined hcall rfl rfl rfl rfl rfl
  | @declinedInsert i ticket c points hcall hphase =>
    refine slip_declined hcall rfl rfl rfl rfl ?_
    by_cases ht : ticket = t <;> simp [answers, Command.parcel?, ht]
  | declinedUnsubscribe hcall hphase => exact slip_declined hcall rfl rfl rfl rfl rfl
  | declinedDisconnect hcall hphase => exact slip_declined hcall rfl rfl rfl rfl rfl
  | giveUp hawaits => exact slip_givenUp hawaits
  | fail hfails hover => exact slip_dropped [.entered .error] rfl rfl rfl rfl rfl
  | crash hphase hping => exact slip_dropped [] rfl rfl rfl rfl rfl
  | drain hphase hqueue hheld => exact slip_aside rfl (by rw [hqueue]) rfl rfl rfl
  | @handleKnown taken _ _ _ hphase hqueue hactive =>
    exact slip_of_handle taken (.handleKnown hphase hqueue hactive)
  | @handleSubscribe taken _ _ _ hphase hqueue hactive =>
    exact slip_of_handle taken (.handleSubscribe hphase hqueue hactive)
  | @handleUnsubscribe taken _ _ _ hphase hqueue =>
    exact slip_of_handle taken (.handleUnsubscribe hphase hqueue)
  | @handleStale taken _ _ _ _ _ hphase hqueue hgone =>
    exact slip_of_handle taken (.handleStale hphase hqueue hgone)
  | handleInsert hphase hqueue hgone => exact slip_of_handle true (.handleInsert hphase hqueue hgone)
  | handleUnsent hphase hqueue hgone => exact slip_of_handle false (.handleUnsent hphase hqueue hgone)
  | @handleDisconnect taken _ _ hphase hqueue =>
    exact slip_of_handle taken (.handleDisconnect hphase hqueue)
  | @receive frame active hphase =>
    rcases receive_cases s frame with h | ⟨_, h⟩ | ⟨_, _, h⟩ <;> rw [h]
    · exact slip_aside rfl rfl rfl rfl rfl
    · exact slip_aside rfl rfl rfl rfl rfl
    · exact slip_aside rfl rfl rfl rfl rfl
  | @tick taken active hphase => cases taken <;> exact slip_aside rfl rfl rfl rfl rfl
  | @announce c taken todo active hphase htodo =>
    cases taken <;> exact slip_aside rfl rfl rfl rfl rfl
  | _ => exact slip_aside rfl rfl rfl rfl rfl

theorem tickets_of_move (hmove : Move s e s' out) (h : e.parcel? = none) :
    s'.tickets = s.tickets := by
  cases hmove with
  | insert hheld hstate => cases h
  | insertOffline hheld hstate => cases h
  | _ => rfl

theorem tickets_le_of_move (hmove : Move s e s' out) : s.tickets ≤ s'.tickets := by
  cases hmove with
  | insert hheld hstate => exact Nat.le_succ _
  | insertOffline hheld hstate => exact Nat.le_succ _
  | _ => exact Nat.le_refl _

theorem stands_of_insert {c : String} {points : List Datapoint}
    (hmove : Move s (.callInsert c points) s' out) (h : s.slip s.tickets past = .blank) :
    s'.tickets = s.tickets + 1 ∧ (s'.slip s.tickets (past ++ out)).Stands (c, points) := by
  obtain ⟨hcalls, hqueue, hgone, hanswers, hframes⟩ := Slip.mk.inj h
  have hnot : s.tickets ∉ s.abandoned := by simpa using hgone
  cases hmove with
  | insert hheld hstate =>
    have hslip : Slip.Stands (c, points) _ := .called
    refine ⟨rfl, ?_⟩
    simpa [slip, Command.parcel?, hcalls, hqueue, hnot, hanswers, hframes] using hslip
  | insertOffline hheld hstate =>
    have hslip : Slip.Stands (c, points) _ := .refused
    refine ⟨rfl, ?_⟩
    simpa [slip, hcalls, hqueue, hnot, hanswers, hframes] using hslip
  | dial hdials => exact hdials.elim
  | wait hfails _ _ => exact hfails.elim
  | fail hfails _ => exact hfails.elim

/-- Where each ticket stands after a run, the tickets being the numbers of the calls to insert. -/
structure Accounts (es : List (Event κ)) (s : Client κ) (out : List (Effect κ)) : Prop where
  tickets : s.tickets = (issued es).length
  stands : ∀ t p, (issued es)[t]? = some p → (s.slip t out).Stands p
  blank : ∀ t, s.tickets ≤ t → s.slip t out = .blank

theorem accounts_of_quiet {es : List (Event κ)} (h : Accounts es s past) (hmove : Move s e s' out)
    (hquiet : e.parcel? = none) : Accounts (es ++ [e]) s' (past ++ out) := by
  have htickets := tickets_of_move hmove hquiet
  have hissued : issued (es ++ [e]) = issued es := by
    rw [issued_append, issued_of_quiet hquiet, List.append_nil]
  refine ⟨?_, fun t p hp => ?_, fun t ht => ?_⟩
  · rw [htickets, hissued, h.tickets]
  · rw [hissued] at hp
    refine (h.stands t p hp).passes (slip_passes hmove (Or.inl ?_))
    rw [h.tickets]
    exact (List.getElem?_eq_some_iff.1 hp).1
  · have hpasses : (s.slip t past).Passes _ := slip_passes hmove (Or.inr ht)
    rw [h.blank t (htickets ▸ ht)] at hpasses
    exact Slip.blank_passes hpasses

theorem accounts_of_insert {es : List (Event κ)} {c : String} {points : List Datapoint}
    (h : Accounts es s past) (hmove : Move s (.callInsert c points) s' out) :
    Accounts (es ++ [.callInsert c points]) s' (past ++ out) := by
  obtain ⟨htickets, hstands⟩ := stands_of_insert hmove (h.blank s.tickets (Nat.le_refl _))
  have hissued : issued (es ++ [.callInsert c points]) = issued es ++ [(c, points)] := issued_append
  refine ⟨?_, fun t p hp => ?_, fun t ht => ?_⟩
  · rw [htickets, hissued, h.tickets, List.length_append, List.length_singleton]
  · rw [hissued] at hp
    -- An earlier ticket goes on as it was, this one begins, and a later one is not issued yet.
    rcases Nat.lt_trichotomy t s.tickets with hlt | rfl | hgt
    · rw [h.tickets] at hlt
      rw [List.getElem?_append_left hlt] at hp
      exact (h.stands t p hp).passes (slip_passes hmove (Or.inl (h.tickets ▸ hlt)))
    · rw [h.tickets, List.getElem?_concat_length] at hp
      obtain rfl := Option.some.inj hp
      exact hstands
    · have hlt := (List.getElem?_eq_some_iff.1 hp).1
      rw [List.length_append, ← h.tickets, List.length_singleton] at hlt
      omega
  · have hpasses : (s.slip t past).Passes _ := slip_passes hmove (Or.inr ht)
    rw [h.blank t (by omega)] at hpasses
    exact Slip.blank_passes hpasses

/-- Wherever the calls to insert and the steps of the loop have come to, each ticket stands somewhere:
its insert is under way, or was answered once, and with yes just when its parcel went out, once. -/
theorem accounts_of_run {policy : ReconnectPolicy} {es : List (Event κ)}
    (hrun : (connect policy).run es = some (s, out)) : Accounts es s out := by
  refine run_induction ?_ ?_ hrun
  · exact ⟨rfl, by simp [issued], fun _ _ => rfl⟩
  · intro es s out e s' last _ ih hmove
    cases hp : e.parcel? with
    | none => exact accounts_of_quiet ih hmove hp
    | some p =>
      cases e with
      | callInsert c points => exact accounts_of_insert ih hmove
      | _ => cases hp

theorem abandoned_of_move (hmove : Move s e s' out) (h : t ∈ s.abandoned) : t ∈ s'.abandoned := by
  cases hmove with
  | giveUp hawaits => exact List.mem_cons_of_mem _ h
  | _ => exact h

theorem abandoned_of_run {es : List (Event κ)} {start : Client κ}
    (hrun : start.run es = some (s, out)) (h : .giveUp t ∈ es) : t ∈ s.abandoned := by
  revert h
  refine run_induction (P := fun es s _ => .giveUp t ∈ es → t ∈ s.abandoned) (by simp) ?_ hrun
  intro es s out e s' last _ ih hmove h
  rcases List.mem_append.1 h with h | h
  · exact abandoned_of_move hmove (ih h)
  · obtain rfl := List.mem_singleton.1 h
    cases hmove with
    | giveUp hawaits => exact List.mem_cons_self
    | dial hdials => exact hdials.elim
    | wait hfails _ _ => exact hfails.elim
    | fail hfails _ => exact hfails.elim

/-- What nobody waits for any more when the loop comes to it does not go out. -/
theorem frames_of_giveUp {policy : ReconnectPolicy} {es : List (Event κ)} {p : Parcel}
    (hrun : (connect policy).run es = some (s, out)) (hp : (issued es)[t]? = some p)
    (h : .giveUp t ∈ es) : frames t out = [] :=
  ((accounts_of_run hrun).stands t p hp).of_gone (by simpa [slip] using abandoned_of_run hrun h)

end Client
end SeriesClient.Push
