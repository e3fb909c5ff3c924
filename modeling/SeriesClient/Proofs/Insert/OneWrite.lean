import SeriesClient.Proofs.Insert.Stage

/-! Every insert is written once: either its points go out on a socket, or one request is made, and
its outcome tells which. A history holds a run of the push client, from which is known where the
ticket of an insert stands, and the stage of the insert says the rest. -/

namespace SeriesClient

open Push

variable {κ : Type}

namespace Desk

variable {policy : ReconnectPolicy} {d d' : Desk κ} {o : Occurrence κ} {os : List (Occurrence κ)}
  {e : Event κ} {es : List (Event κ)} {log new : List (Note κ)} {out : List (Effect κ)}
  {client : Client κ}

/-- What is kept along a history, `es` being what has happened to the push client in it. -/
structure Kept (policy : ReconnectPolicy) (os : List (Occurrence κ)) (d : Desk κ)
    (log : List (Note κ)) (es : List (Event κ)) : Prop where
  run : (Client.connect policy).run es = some (d.client, pushed log)
  begun : d.inserts.map Insertion.order = os.filterMap Occurrence.begun?
  givenUp : ∀ t, .push (.giveUp t) ∈ os → .giveUp t ∈ es
  unbegun : ∀ i, d.inserts.length ≤ i → requests i log = [] ∧ replies i log = []
  parcel : ∀ (i : Nat) (w : Insertion κ) t, d.inserts[i]? = some w → w.ticket = some t →
    (issued es)[t]? = some w.parcel
  own : ∀ (i j : Nat) (w x : Insertion κ) t, d.inserts[i]? = some w → d.inserts[j]? = some x →
    w.ticket = some t → x.ticket = some t → i = j
  stage : ∀ (i : Nat) (w : Insertion κ), d.inserts[i]? = some w → w.Stage i log

theorem Kept.begin {access : Access} {stream : Stream} {points : List Datapoint} {restamp : Bool}
    (h : Kept policy os d log es) :
    Kept policy (os ++ [.begin access stream points restamp])
      { d with inserts := d.inserts ++ [.begin access stream points restamp] } log es where
  run := h.run
  begun := by
    rw [List.map_append, List.filterMap_append, h.begun]
    rfl
  givenUp t ht := h.givenUp t (by simpa using ht)
  unbegun i hi := h.unbegun i (by
    simp only [List.length_append, List.length_singleton] at hi
    omega)
  parcel i w t hw ht := by
    rcases of_getElem?_concat hw with hw | ⟨-, rfl⟩
    · exact h.parcel i w t hw ht
    · cases ht
  own i j w x t hw hx ht hxt := by
    rcases of_getElem?_concat hw with hw | ⟨-, rfl⟩
    · rcases of_getElem?_concat hx with hx | ⟨-, rfl⟩
      · exact h.own i j w x t hw hx ht hxt
      · cases hxt
    · cases ht
  stage i w hw := by
    rcases of_getElem?_concat hw with hw | ⟨rfl, rfl⟩
    · exact h.stage i w hw
    · exact Insertion.stage_begin (h.unbegun _ (Nat.le_refl _)).1 (h.unbegun _ (Nat.le_refl _)).2

theorem orders_set {inserts : List (Insertion κ)} {i : Nat} {w w' : Insertion κ}
    (hw : inserts[i]? = some w) (horder : w'.order = w.order) :
    (inserts.set i w').map Insertion.order = inserts.map Insertion.order := by
  refine List.ext_getElem? fun j => ?_
  by_cases hj : i = j
  · subst hj
    obtain ⟨hi, rfl⟩ := List.getElem?_eq_some_iff.1 hw
    simp [hi, horder]
  · simp [hj]

theorem origin_of_put {i j : Nat} {w x : Insertion κ} {talk : Talk κ}
    (hw : d.inserts[i]? = some w) (hx : (d.put i { w with talk }).inserts[j]? = some x) :
    ∃ y, d.inserts[j]? = some y ∧ y.ticket = x.ticket ∧ y.parcel = x.parcel := by
  rcases inserts_put hx with ⟨rfl, rfl⟩ | ⟨-, hx⟩
  · exact ⟨w, hw, rfl, rfl⟩
  · exact ⟨x, hx, rfl, rfl⟩

theorem Kept.put {i : Nat} {w : Insertion κ} {talk : Talk κ} (h : Kept policy os d log es)
    (hw : d.inserts[i]? = some w) (hquiet : pushed new = [])
    (hothers : ∀ j, j ≠ i → requests j new = [] ∧ replies j new = [])
    (hstage : Insertion.Stage { w with talk } i (log ++ new)) (hbegun : o.begun? = none)
    (hpush : ∀ e, o ≠ .push e) :
    Kept policy (os ++ [o]) (d.put i { w with talk }) (log ++ new) es where
  run := by rw [pushed_append, hquiet, List.append_nil]; exact h.run
  begun := by
    rw [List.filterMap_append, List.filterMap_cons_none hbegun, List.filterMap_nil, List.append_nil,
      ← h.begun]
    exact orders_set hw rfl
  givenUp t ht := by
    rcases List.mem_append.1 ht with ht | ht
    · exact h.givenUp t ht
    · exact absurd (List.mem_singleton.1 ht).symm (hpush _)
  unbegun j hj := by
    rw [Desk.put, List.length_set] at hj
    have hi := (List.getElem?_eq_some_iff.1 hw).1
    obtain ⟨hrequests, hreplies⟩ := hothers j (by omega)
    simp [hrequests, hreplies, h.unbegun j hj]
  parcel j x t hx ht := by
    obtain ⟨y, hy, hticket, hparcel⟩ := origin_of_put hw hx
    rw [← hparcel]
    exact h.parcel j y t hy (hticket.trans ht)
  own j k x y t hx hy ht hyt := by
    obtain ⟨x', hx', hticket, -⟩ := origin_of_put hw hx
    obtain ⟨y', hy', hticket', -⟩ := origin_of_put hw hy
    exact h.own j k x' y' t hx' hy' (hticket.trans ht) (hticket'.trans hyt)
  stage j x hx := by
    rcases inserts_put hx with ⟨rfl, rfl⟩ | ⟨hj, hx⟩
    · exact hstage
    · obtain ⟨hrequests, hreplies⟩ := hothers j hj
      exact (h.stage j x hx).append ⟨by simp [hquiet], hrequests, hreplies⟩

theorem Kept.hear {inserts : List (Insertion κ)} (h : Kept policy os d log es)
    (hmove : d.client.Move e client out)
    (horders : inserts.map Insertion.order = d.inserts.map Insertion.order)
    (hparcel : ∀ (i : Nat) (w : Insertion κ) t, inserts[i]? = some w → w.ticket = some t →
      (issued (es ++ [e]))[t]? = some w.parcel)
    (hown : ∀ (i j : Nat) (w x : Insertion κ) t, inserts[i]? = some w → inserts[j]? = some x →
      w.ticket = some t → x.ticket = some t → i = j)
    (hstage : ∀ (i : Nat) (w : Insertion κ), inserts[i]? = some w → w.Stage i log)
    (hbegun : o.begun? = none) (hpush : ∀ t, o = .push (.giveUp t) → e = .giveUp t) :
    Kept policy (os ++ [o]) { client, inserts := inserts.map (·.hear out) }
      (log ++ out.map .pushed) (es ++ [e]) := by
  have hrun : (Client.connect policy).run (es ++ [e]) =
      some (client, pushed (log ++ out.map .pushed)) := by
    rw [pushed_append, pushed_map]
    exact Client.run_append_iff.2 ⟨_, _, _, h.run, Client.run_singleton_iff.2 hmove, rfl⟩
  have hlength : inserts.length = d.inserts.length := by simpa using congrArg List.length horders
  refine ⟨hrun, ?_, fun t ht => ?_, fun i hi => ?_, fun i w t hw ht => ?_,
    fun i j w x t hw hx ht hxt => ?_, fun i w hw => ?_⟩
  · rw [List.filterMap_append, List.filterMap_cons_none hbegun, List.filterMap_nil, List.append_nil,
      ← h.begun, ← horders, List.map_map]
    exact List.map_congr_left fun w _ => Insertion.hear_order
  · rcases List.mem_append.1 ht with ht | ht
    · exact List.mem_append_left _ (h.givenUp t ht)
    · rw [hpush t (List.mem_singleton.1 ht).symm]
      exact List.mem_append_right _ List.mem_cons_self
  · rw [List.length_map, hlength] at hi
    simp [h.unbegun i hi]
  · obtain ⟨x, hx, rfl⟩ := inserts_hear hw
    rw [Insertion.hear_ticket] at ht
    rw [Insertion.hear_parcel]
    exact hparcel i x t hx ht
  · obtain ⟨w, hw', rfl⟩ := inserts_hear hw
    obtain ⟨x, hx', rfl⟩ := inserts_hear hx
    rw [Insertion.hear_ticket] at ht hxt
    exact hown i j w x t hw' hx' ht hxt
  · obtain ⟨x, hx, rfl⟩ := inserts_hear hw
    refine (hstage i x hx).hear fun t ht => ?_
    have hstands := (Client.accounts_of_run hrun).stands t x.parcel (hparcel i x t hx ht)
    simpa [Client.slip] using hstands.answers_eq

theorem Kept.push (h : Kept policy os d log es) (hmove : d.client.Move e client out) :
    Kept policy (os ++ [.push e]) { client, inserts := d.inserts.map (·.hear out) }
      (log ++ out.map .pushed) (es ++ [e]) := by
  refine h.hear hmove rfl (fun i w t hw ht => issued_kept (h.parcel i w t hw ht)) h.own h.stage rfl
    fun t ht => ?_
  cases ht
  rfl

/-- An insert takes its points to the push client, which gives it the next ticket. -/
theorem Kept.call {i : Nat} {w : Insertion κ} {channel : String} {points : List Datapoint}
    {next : Bool → Exchange κ Outcome} (h : Kept policy os d log es) (hw : d.inserts[i]? = some w)
    (htalk : w.talk = .speaking (.ask (.pushInsert channel points) next))
    (hmove : d.client.Move (.callInsert channel points) client out) :
    Kept policy (os ++ [.ask i])
      { client
        inserts := (d.inserts.set i { w with
          ticket := some d.client.tickets
          talk := .awaiting d.client.tickets next }).map (·.hear out) }
      (log ++ out.map .pushed) (es ++ [.callInsert channel points]) := by
  obtain ⟨hticket, hparcel, rfl, hreads⟩ := (h.stage i w hw).ask_push htalk
  have haccounts := Client.accounts_of_run h.run
  have hold : ∀ (j : Nat) (x : Insertion κ) t, d.inserts[j]? = some x → x.ticket = some t →
      t < d.client.tickets := fun j x t hx ht => by
    rw [haccounts.tickets]
    exact (List.getElem?_eq_some_iff.1 (h.parcel j x t hx ht)).1
  refine h.hear hmove (orders_set hw rfl) (fun j x t hx ht => ?_)
    (fun j k x y t hx hy ht hyt => ?_) (fun j x hx => ?_) rfl nofun
  · rcases inserts_put (d := d) hx with ⟨rfl, rfl⟩ | ⟨-, hx⟩
    · obtain rfl := Option.some.inj ht
      rw [haccounts.tickets, issued_append]
      exact List.getElem?_concat_length.trans (congrArg some hparcel)
    · exact issued_kept (h.parcel j x t hx ht)
  · rcases inserts_put (d := d) hx with ⟨rfl, rfl⟩ | ⟨-, hx'⟩
    · rcases inserts_put (d := d) hy with ⟨rfl, rfl⟩ | ⟨-, hy'⟩
      · rfl
      · exact absurd (hold k y t hy' hyt) (by simp [← Option.some.inj ht])
    · rcases inserts_put (d := d) hy with ⟨rfl, rfl⟩ | ⟨-, hy'⟩
      · exact absurd (hold j x t hx' ht) (by simp [← Option.some.inj hyt])
      · exact h.own j k x y t hx' hy' ht hyt
  · rcases inserts_put (d := d) hx with ⟨rfl, rfl⟩ | ⟨-, hx⟩
    · refine .awaiting rfl rfl ⟨fun t ht => ?_, hreads.calls, hreads.answered⟩
      obtain rfl := Option.some.inj ht
      exact congrArg Slip.answers (haccounts.blank _ (Nat.le_refl _))
    · exact h.stage j x hx

theorem kept_of_turn (h : Kept policy os d log es) (hturn : Turn d o d' new) :
    ∃ fs, Kept policy (os ++ [o]) d' (log ++ new) (es ++ fs) := by
  cases hturn with
  | begin => exact ⟨[], by simpa using h.begin⟩
  | call hw htalk hmove => exact ⟨_, h.call hw htalk hmove⟩
  | request hw htalk =>
    refine ⟨[], ?_⟩
    rw [List.append_nil]
    exact h.put hw rfl (fun j hj => ⟨requests_of_ne hj, rfl⟩) ((h.stage _ _ hw).ask_api htalk) rfl
      nofun
  | reply hw htalk =>
    refine ⟨[], ?_⟩
    rw [List.append_nil]
    exact h.put hw rfl (fun j hj => ⟨rfl, replies_of_ne hj⟩) ((h.stage _ _ hw).reply htalk) rfl
      nofun
  | push hmove => exact ⟨_, h.push hmove⟩

theorem kept_of_run (hrun : (openWith policy).run os = some (d, log)) :
    ∃ es, Kept policy os d log es := by
  refine runSteps_induction (P := fun os d log => ∃ es, Kept policy os d log es) ?_ ?_ hrun
  · exact ⟨[], rfl, rfl, nofun, fun _ _ => ⟨rfl, rfl⟩, nofun, nofun, nofun⟩
  · rintro os d log o d' new - ⟨es, h⟩ hstep
    obtain ⟨fs, hkept⟩ := kept_of_turn h (turn_of_step hstep)
    exact ⟨_, hkept⟩

/-- What the push client told an insert that has ended says how it was written. -/
theorem Kept.told_of_ends {i : Nat} {w : Insertion κ} {outcome : Outcome}
    (h : Kept policy os d log es) (hw : d.inserts[i]? = some w) (hends : w.Ends outcome) :
    (∃ t, w.ticket = some t ∧ answers t (pushed log) = [true] ∧
      writes i w.ticket log = [.frame w.stream.name w.points] ∧ outcome = .ok ()) ∨
    ((∀ t, w.ticket = some t → answers t (pushed log) = [false]) ∧
      writes i w.ticket log = [.request w.call] ∧
      ∃ answer, replies i log = [answer] ∧ outcome = answer.map fun _ => ()) := by
  have hstands : ∀ t, w.ticket = some t → (d.client.slip t (pushed log)).Stands w.parcel :=
    fun t ht => (Client.accounts_of_run h.run).stands t w.parcel (h.parcel i w t hw ht)
  rcases (h.stage i w hw).ends hends with ⟨t, hticket, hreads, rfl⟩ | ⟨answer, hreads, rfl⟩
  · have hframes : frames t (pushed log) = [w.parcel] :=
      (hstands t hticket).of_yes (hreads.told t hticket)
    refine Or.inl ⟨t, hticket, hreads.told t hticket, ?_, rfl⟩
    rw [hticket, writes_of_no_request hreads.calls, hframes]
    rfl
  · have hframes : ∀ t, w.ticket = some t → frames t (pushed log) = [] := fun t ht =>
      (hstands t ht).of_no (hreads.told t ht)
    refine Or.inr ⟨hreads.told, ?_, answer, hreads.answered, rfl⟩
    rw [writes_of_no_frame hframes, hreads.calls]
    rfl

theorem Kept.writes_of_ends {i : Nat} {w : Insertion κ} {outcome : Outcome}
    (h : Kept policy os d log es) (hw : d.inserts[i]? = some w) (hends : w.Ends outcome) :
    (writes i w.ticket log = [.frame w.stream.name w.points] ∧ outcome = .ok ()) ∨
      (writes i w.ticket log = [.request w.call] ∧
        ∃ answer, replies i log = [answer] ∧ outcome = answer.map fun _ => ()) := by
  rcases h.told_of_ends hw hends with ⟨-, -, -, hframe⟩ | ⟨-, hrequest⟩
  · exact Or.inl hframe
  · exact Or.inr hrequest

theorem Kept.length_writes {i : Nat} {w : Insertion κ} {outcome : Outcome}
    (h : Kept policy os d log es) (hw : d.inserts[i]? = some w) (hends : w.Ends outcome) :
    (writes i w.ticket log).length = 1 := by
  rcases h.writes_of_ends hw hends with ⟨hwrites, -⟩ | ⟨hwrites, -⟩ <;> rw [hwrites] <;> rfl

theorem Kept.frames_of_giveUp {i t : Nat} {w : Insertion κ} (h : Kept policy os d log es)
    (hw : d.inserts[i]? = some w) (ht : w.ticket = some t) (hgiveUp : .push (.giveUp t) ∈ os) :
    frames t (pushed log) = [] :=
  Client.frames_of_giveUp h.run (h.parcel i w t hw ht) (h.givenUp t hgiveUp)

theorem inserts_put_of_ne {i j : Nat} {w x : Insertion κ} (hj : d.inserts[j]? = some x)
    (hne : x ≠ w) (hw : d.inserts[i]? = some w) (x' : Insertion κ) :
    (d.put j x').inserts[i]? = some w := by
  have hij : j ≠ i := by
    rintro rfl
    exact hne (Option.some.inj (hj.symm.trans hw))
  rw [put, List.getElem?_set_ne hij, hw]

theorem ended_of_turn {i : Nat} {w : Insertion κ} {outcome : Outcome} (hw : d.inserts[i]? = some w)
    (hends : w.Ends outcome) (hturn : Turn d o d' new) : d'.inserts[i]? = some w := by
  cases hturn with
  | begin =>
    exact (List.getElem?_append_left (List.getElem?_eq_some_iff.1 hw).1).trans hw
  | call hx htalk hmove =>
    have hstill := inserts_put_of_ne hx (fun h => by cases htalk.symm.trans (h ▸ hends)) hw
    exact (List.getElem?_map.trans (congrArg _ (hstill _))).trans
      (congrArg some (Insertion.hear_of_ends hends))
  | request hx htalk =>
    exact inserts_put_of_ne hx (fun h => by cases htalk.symm.trans (h ▸ hends)) hw _
  | reply hx htalk =>
    exact inserts_put_of_ne hx (fun h => by cases htalk.symm.trans (h ▸ hends)) hw _
  | push hmove =>
    exact (List.getElem?_map.trans (congrArg _ hw)).trans
      (congrArg some (Insertion.hear_of_ends hends))

theorem ended_of_run {i : Nat} {w : Insertion κ} {outcome : Outcome} (hw : d.inserts[i]? = some w)
    (hends : w.Ends outcome) (hrun : d.run os = some (d', new)) : d'.inserts[i]? = some w :=
  runSteps_induction (P := fun _ d' _ => d'.inserts[i]? = some w) hw
    (fun _ ih hstep => ended_of_turn ih hends (turn_of_step hstep)) hrun

/-- An insert that has the ticket `t` had it at `m` already, or was given it since. -/
def HeldSince (m : Desk κ) (i t : Nat) : Prop :=
  (∃ x, m.inserts[i]? = some x ∧ x.ticket = some t) ∨ m.client.tickets ≤ t

structure Later (m d : Desk κ) : Prop where
  tickets : m.client.tickets ≤ d.client.tickets
  since : ∀ (i : Nat) (w : Insertion κ) t, d.inserts[i]? = some w → w.ticket = some t →
    m.HeldSince i t

/-- What begins later takes later tickets. -/
theorem Later.later {m : Desk κ} (h : Later m d) (i : Nat) (w : Insertion κ) (t : Nat)
    (hi : m.inserts.length ≤ i) (hw : d.inserts[i]? = some w) (ht : w.ticket = some t) :
    m.client.tickets ≤ t := by
  refine (h.since i w t hw ht).resolve_left ?_
  rintro ⟨x, hx, -⟩
  exact absurd (List.getElem?_eq_some_iff.1 hx).1 (Nat.not_lt.2 hi)

theorem Later.hear {m : Desk κ} {inserts : List (Insertion κ)} (h : Later m d)
    (hmove : d.client.Move e client out)
    (hinserts : ∀ (i : Nat) (w : Insertion κ) t, inserts[i]? = some w → w.ticket = some t →
      m.HeldSince i t) :
    Later m { client, inserts := inserts.map (·.hear out) } where
  tickets := Nat.le_trans h.tickets (Client.tickets_le_of_move hmove)
  since i w t hw ht := by
    obtain ⟨x, hx, rfl⟩ := inserts_hear hw
    exact hinserts i x t hx (Insertion.hear_ticket.symm.trans ht)

theorem Later.put {m : Desk κ} {i : Nat} {w : Insertion κ} {talk : Talk κ} (h : Later m d)
    (hw : d.inserts[i]? = some w) : Later m (d.put i { w with talk }) where
  tickets := h.tickets
  since j x t hx ht := by
    obtain ⟨y, hy, hticket, -⟩ := origin_of_put hw hx
    exact h.since j y t hy (hticket.trans ht)

theorem later_of_turn {m : Desk κ} (h : Later m d) (hturn : Turn d o d' new) : Later m d' := by
  cases hturn with
  | begin =>
    refine ⟨h.tickets, fun i w t hw ht => ?_⟩
    rcases of_getElem?_concat hw with hw | ⟨-, rfl⟩
    · exact h.since i w t hw ht
    · cases ht
  | call hw htalk hmove =>
    refine h.hear hmove fun i x t hx ht => ?_
    rcases inserts_put (d := d) hx with ⟨rfl, rfl⟩ | ⟨-, hx⟩
    · exact Or.inr (Option.some.inj ht ▸ h.tickets)
    · exact h.since i x t hx ht
  | request hw htalk => exact h.put hw
  | reply hw htalk => exact h.put hw
  | push hmove => exact h.hear hmove h.since

theorem later_of_run (hrun : d.run os = some (d', new)) : Later d d' := by
  refine runSteps_induction (P := fun _ d' _ => Later d d') ?_ ?_ hrun
  · exact ⟨Nat.le_refl _, fun i w t hw ht => Or.inl ⟨w, hw, ht⟩⟩
  · exact fun _ ih hstep => later_of_turn ih (turn_of_step hstep)

/-- For any inserts, however their steps and those of the push client fall together: what begins is
what was called for, and an insert that has ended was written once. Either its points went out on a
socket and it ended well, or one request was made, whose answer is its outcome. Nothing goes out for
an insert that gave up the push client. And when the history is cut anywhere, what has ended before
writes nothing after, and what begins after has written nothing before. -/
theorem one_write_per_insert (hrun : (openWith policy).run os = some (d, log)) :
    d.inserts.map Insertion.order = os.filterMap Occurrence.begun? ∧
    (∀ (i j : Nat) (w x : Insertion κ) t, d.inserts[i]? = some w → d.inserts[j]? = some x →
      w.ticket = some t → x.ticket = some t → i = j) ∧
    (∀ (i : Nat) (w : Insertion κ) outcome, d.inserts[i]? = some w → w.Ends outcome →
      (writes i w.ticket log = [.frame w.stream.name w.points] ∧ outcome = .ok ()) ∨
      (writes i w.ticket log = [.request (
          if w.restamp then .put (w.stream.name ++ "/data") (Stream.insertBody w.points)
          else .post (w.stream.name ++ "/data") (Stream.insertBody w.points))] ∧
        ∃ answer, replies i log = [answer] ∧ outcome = answer.map fun _ => ())) ∧
    (∀ (i : Nat) (w : Insertion κ) t, d.inserts[i]? = some w → w.ticket = some t →
      .push (.giveUp t) ∈ os → ∀ channel points, .frame channel points ∉ writes i w.ticket log) ∧
    ∀ before after, os = before ++ after → ∃ m first rest,
      (openWith policy).run before = some (m, first) ∧ m.run after = some (d, rest) ∧
      log = first ++ rest ∧
      (∀ (i : Nat) (w : Insertion κ) outcome, m.inserts[i]? = some w → w.Ends outcome →
        d.inserts[i]? = some w ∧ writes i w.ticket rest = []) ∧
      ∀ (i : Nat) (w : Insertion κ), m.inserts.length ≤ i → d.inserts[i]? = some w →
        writes i w.ticket first = [] := by
  obtain ⟨es, h⟩ := kept_of_run hrun
  refine ⟨h.begun, h.own, fun i w outcome hw hends => h.writes_of_ends hw hends,
    fun i w t hw ht hgiveUp channel points => ?_, ?_⟩
  · have hframes : ∀ t', w.ticket = some t' → frames t' (pushed log) = [] := fun t' ht' => by
      obtain rfl := Option.some.inj (ht.symm.trans ht')
      exact h.frames_of_giveUp hw ht hgiveUp
    simp [writes_of_no_frame hframes]
  · rintro before after rfl
    obtain ⟨m, first, rest, hfirst, hrest, rfl⟩ := runSteps_append_iff.1 hrun
    obtain ⟨fs, hm⟩ := kept_of_run hfirst
    refine ⟨m, first, rest, hfirst, hrest, rfl, fun i w outcome hw hends => ?_,
      fun i w hi hw => ?_⟩
    · have hstill := ended_of_run hw hends hrest
      have hbefore := hm.length_writes hw hends
      have hall := h.length_writes hstill hends
      rw [writes_append, List.length_append, hbefore] at hall
      exact ⟨hstill, List.length_eq_zero_iff.1 (by omega)⟩
    · have hframes : ∀ t, w.ticket = some t → frames t (pushed first) = [] := fun t ht =>
        congrArg Slip.frames ((Client.accounts_of_run hm.run).blank t
          ((later_of_run hrest).later i w t hi hw ht))
      rw [writes_of_no_frame hframes, (hm.unbegun i hi).1, List.map_nil]

def onOff : List Datapoint := [.stamped 1.5 (.string "on"), .unstamped (.string "off")]

/-- Two inserts: one goes out on the socket, the other gives up in the queue and is posted. -/
def errands : List (Occurrence Nat) :=
  [.push .start, .push .opened, .push .recall, .push .serve,
    .begin ⟨true, true⟩ (.named "u/d/s") [.unstamped .null] false, .ask 0, .push (.enqueue 0),
    .push (.handle true), .begin ⟨true, true⟩ (.named "u/d/s") onOff false, .ask 1,
    .push (.enqueue 0), .push (.giveUp 1), .push .lost, .ask 1, .reply 1 (.ok .null)]

theorem one_write_per_insert_errands : ∃ d log,
    (openWith {}).run errands = some (d, log) ∧
    writes 0 (some 0) log = [.frame "u/d/s" [.unstamped .null]] ∧
    writes 1 (some 1) log = [.request (.post "u/d/s/data" (Stream.insertBody onOff))] ∧
    ∀ channel points, .frame channel points ∉ writes 1 (some 1) log := by
  have hrun : (openWith {}).run errands = some (_, _) := rfl
  refine ⟨_, _, hrun, rfl, rfl, ?_⟩
  exact (one_write_per_insert hrun).2.2.2.1 1 _ 1 rfl rfl (by simp [errands])

end Desk

end SeriesClient
