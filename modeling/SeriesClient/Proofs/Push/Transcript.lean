import SeriesClient.Proofs.Push.Overlap

/-! What goes out on one socket, from the time it comes up to the time another one does. First the
replay tells each registered channel once, before any command is handled; then every command that is
handled is followed by the frame it calls for, if it calls for one. The set of announced channels is
what tells whether it does, so it has to be what the frames on this socket say. -/

namespace SeriesClient.Push

variable {κ : Type}

def Effect.isRecorded : Effect κ → Bool
  | .sent _ | .forwarded _ _ _ | .handled _ => true
  | _ => false

/-- What goes out, and what is handled, in its order. -/
def record (out : List (Effect κ)) : List (Effect κ) := out.filter Effect.isRecorded

/-- A frame that subscribes to the channel has gone out, and since then none that unsubscribes. -/
def Told (c : String) (log : List (Effect κ)) : Prop :=
  ∃ before after, log = before ++ .sent (.subscribe c) :: after ∧ .sent (.unsubscribe c) ∉ after

def announcements (channels : List String) : List (Effect κ) :=
  channels.map fun c => .sent (.subscribe c)

/-- The record of a socket on which the replay announced `order` and then `commands` were handled. -/
inductive Orderly (order : List String) : List Command → List (Effect κ) → Prop where
  | replayed : Orderly order [] (announcements order)
  | subscribed {c : String} {commands : List Command} {log : List (Effect κ)}
      (h : Orderly order commands log) (hnew : ¬ Told c log) :
      Orderly order (commands ++ [.subscribe c])
        (log ++ [.handled (.subscribe c), .sent (.subscribe c)])
  | known {c : String} {commands : List Command} {log : List (Effect κ)}
      (h : Orderly order commands log) (htold : Told c log) :
      Orderly order (commands ++ [.subscribe c]) (log ++ [.handled (.subscribe c)])
  | unsubscribed {c : String} {commands : List Command} {log : List (Effect κ)}
      (h : Orderly order commands log) :
      Orderly order (commands ++ [.unsubscribe c])
        (log ++ [.handled (.unsubscribe c), .sent (.unsubscribe c)])
  | inserted {ticket : Nat} {c : String} {points : List Datapoint} {commands : List Command}
      {log : List (Effect κ)} (h : Orderly order commands log) :
      Orderly order (commands ++ [.insert ticket c points])
        (log ++ [.handled (.insert ticket c points), .forwarded ticket c points])
  /-- Nobody waits for the insert any more. -/
  | dropped {ticket : Nat} {c : String} {points : List Datapoint} {commands : List Command}
      {log : List (Effect κ)} (h : Orderly order commands log) :
      Orderly order (commands ++ [.insert ticket c points])
        (log ++ [.handled (.insert ticket c points)])
  | closed {commands : List Command} {log : List (Effect κ)} (h : Orderly order commands log) :
      Orderly order (commands ++ [.disconnect]) (log ++ [.handled .disconnect])

section
variable {c d : String} {log later : List (Effect κ)} {effect : Effect κ} {order : List String}

theorem eq_announcements_of_orderly (h : Orderly order [] log) : log = announcements order := by
  generalize hcommands : ([] : List Command) = commands at h
  cases h with
  | replayed => rfl
  | _ => simp at hcommands

theorem record_append (out later : List (Effect κ)) :
    record (out ++ later) = record out ++ record later :=
  List.filter_append ..

theorem handledIn_append (out later : List (Effect κ)) :
    handledIn (out ++ later) = handledIn out ++ handledIn later :=
  List.filterMap_append

theorem handledIn_record (out : List (Effect κ)) : handledIn (record out) = handledIn out := by
  rw [handledIn, record, List.filterMap_filter]
  refine List.filterMap_congr fun effect _ => ?_
  cases effect <;> rfl

theorem record_refusals (abandoned : List Nat) (queue : List Command) :
    record (queue.flatMap (Client.refusal (κ := κ) abandoned)) = [] := by
  refine List.filter_eq_nil_iff.2 fun effect h => ?_
  obtain ⟨ticket, rfl⟩ := Client.mem_refusals h
  exact Bool.false_ne_true

theorem handledIn_refusals (abandoned : List Nat) (queue : List Command) :
    handledIn (queue.flatMap (Client.refusal (κ := κ) abandoned)) = [] := by
  refine List.filterMap_eq_nil_iff.2 fun effect h => ?_
  obtain ⟨ticket, rfl⟩ := Client.mem_refusals h
  rfl

theorem not_told_nil (c : String) : ¬ Told c ([] : List (Effect κ)) := by
  rintro ⟨before, after, h, -⟩
  simp at h

theorem told_concat :
    Told c (log ++ [effect]) ↔
      effect = .sent (.subscribe c) ∨ effect ≠ .sent (.unsubscribe c) ∧ Told c log := by
  constructor
  · rintro ⟨before, after, h, hnone⟩
    rcases of_concat_eq h with ⟨-, heffect, -⟩ | ⟨mid, rfl, rfl⟩
    · exact Or.inl heffect.symm
    · simp only [List.mem_append, List.mem_singleton, not_or] at hnone
      exact Or.inr ⟨Ne.symm hnone.2, before, mid, rfl, hnone.1⟩
  · rintro (rfl | ⟨hne, before, after, rfl, hnone⟩)
    · exact ⟨log, [], rfl, List.not_mem_nil⟩
    · refine ⟨before, after ++ [effect], by simp, ?_⟩
      simpa [hnone] using Ne.symm hne

/-- An effect that sends nothing tells nothing. -/
theorem told_concat_of_unsent (h : ∀ message, effect ≠ .sent message) :
    Told c (log ++ [effect]) ↔ Told c log := by
  simp [told_concat, h]

theorem told_concat_subscribe : Told c (log ++ [.sent (.subscribe d)]) ↔ c = d ∨ Told c log := by
  simp [told_concat, eq_comm]

theorem told_concat_unsubscribe :
    Told c (log ++ [.sent (.unsubscribe d)]) ↔ c ≠ d ∧ Told c log := by
  simp [told_concat, eq_comm]

theorem told_append_of_unsent (h : ∀ message, .sent message ∉ later) :
    Told c (log ++ later) ↔ Told c log := by
  induction later using List.reverseRecOn with
  | nil => rw [List.append_nil]
  | append_singleton later effect ih =>
    have hlater : ∀ message, .sent message ∉ later := fun message hmem =>
      h message (List.mem_append_left _ hmem)
    have heffect : ∀ message, effect ≠ .sent message := fun message heq =>
      h message (List.mem_append_right _ (List.mem_singleton.2 heq.symm))
    rw [← List.append_assoc, told_concat_of_unsent heffect, ih hlater]

theorem told_record (out : List (Effect κ)) : Told c (record out) ↔ Told c out := by
  induction out using List.reverseRecOn with
  | nil => rfl
  | append_singleton out effect ih =>
    rw [record_append]
    cases hrecorded : effect.isRecorded with
    | true =>
      have hkept : record [effect] = [effect] := List.filter_cons_of_pos hrecorded
      rw [hkept, told_concat, told_concat, ih]
    | false =>
      have hunsent : ∀ message, effect ≠ .sent message := by
        rintro message rfl
        cases hrecorded
      have hleft : record [effect] = [] := List.filter_cons_of_neg (by simp [hrecorded])
      rw [hleft, List.append_nil, ih, told_concat_of_unsent hunsent]

/-- No frame subscribes to a channel that the server takes to be subscribed. -/
def Fresh (log : List (Effect κ)) : Prop :=
  ∀ c before after, log = before ++ .sent (.subscribe c) :: after → ¬ Told c before

theorem fresh_concat (h : Fresh log) (hnew : ∀ c, effect = .sent (.subscribe c) → ¬ Told c log) :
    Fresh (log ++ [effect]) := by
  intro c before after hsplit
  rcases of_concat_eq hsplit with ⟨rfl, heffect, -⟩ | ⟨mid, rfl, -⟩
  · exact hnew c heffect.symm
  · exact h c before mid rfl

theorem told_announcements {order : List String} :
    Told c (announcements order : List (Effect κ)) ↔ c ∈ order := by
  induction order using List.reverseRecOn with
  | nil => simpa [announcements] using not_told_nil c
  | append_singleton order d ih =>
    rw [announcements, List.map_append, ← announcements]
    simp only [List.map_cons, List.map_nil, told_concat_subscribe, ih]
    simp [or_comm]

theorem fresh_announcements (h : order.Nodup) : Fresh (announcements order : List (Effect κ)) := by
  induction order using List.reverseRecOn with
  | nil => exact fun c before after h => by simp [announcements] at h
  | append_singleton order d ih =>
    rw [List.nodup_append] at h
    rw [announcements, List.map_append, ← announcements]
    refine fresh_concat (ih h.1) ?_
    rintro c hc
    obtain rfl : d = c := by simpa using hc
    rw [told_announcements]
    exact fun hmem => h.2.2 d hmem d (List.mem_singleton_self d) rfl

theorem fresh_of_orderly {commands : List Command} (h : Orderly order commands log)
    (horder : order.Nodup) : Fresh log := by
  induction h with
  | replayed => exact fresh_announcements horder
  | @subscribed c commands log h hnew ih =>
    rw [List.append_cons]
    refine fresh_concat (fresh_concat ih (by simp)) ?_
    rintro d hd
    obtain rfl : c = d := by simpa using hd
    rwa [told_concat_of_unsent (by simp)]
  | known h htold ih => exact fresh_concat ih (by simp)
  | unsubscribed h ih =>
    rw [List.append_cons]
    exact fresh_concat (fresh_concat ih (by simp)) (by simp)
  | inserted h ih =>
    rw [List.append_cons]
    exact fresh_concat (fresh_concat ih (by simp)) (by simp)
  | dropped h ih => exact fresh_concat ih (by simp)
  | closed h ih => exact fresh_concat ih (by simp)

/-- Between two frames that subscribe to a channel there is one that unsubscribes. -/
theorem unsubscribed_between {out before mid after : List (Effect κ)} (h : Fresh (record out))
    (hsplit : out = before ++ .sent (.subscribe c) :: mid ++ .sent (.subscribe c) :: after) :
    .sent (.unsubscribe c) ∈ mid := by
  by_contra hnone
  have htold : Told c (before ++ .sent (.subscribe c) :: mid) := ⟨before, mid, rfl, hnone⟩
  rw [hsplit, record_append] at h
  exact h c _ (record after) rfl ((told_record _).2 htold)

end

namespace Client

variable {s s' : Client κ} {e : Event κ} {es : List (Event κ)} {out last : List (Effect κ)}

/-- The channels announced on the socket are those that its frames say are subscribed to. -/
def TellsTrue (s : Client κ) (out : List (Effect κ)) : Prop :=
  s.phase.isUp = true → ∀ c, c ∈ s.announced ↔ Told c out

theorem TellsTrue.of_announcing {todo active : List String} (h : s.TellsTrue out)
    (hphase : s.phase = .announcing todo active) {c : String} : c ∈ active ↔ Told c out := by
  simpa [announced, hphase] using h (by simp [hphase, Phase.isUp]) c

theorem TellsTrue.of_serving {active : List String} (h : s.TellsTrue out)
    (hphase : s.phase = .serving active) {c : String} : c ∈ active ↔ Told c out := by
  simpa [announced, hphase] using h (by simp [hphase, Phase.isUp]) c

theorem TellsTrue.same (h : s.TellsTrue out) (hup : s'.phase.isUp = true → s.phase.isUp = true)
    (hannounced : s'.phase.isUp = true → s'.announced = s.announced)
    (hunsent : ∀ message, .sent message ∉ last) : s'.TellsTrue (out ++ last) := by
  intro hstill c
  rw [hannounced hstill, told_append_of_unsent hunsent]
  exact h (hup hstill) c

theorem TellsTrue.down (h : s.phase.isUp = false) : s.TellsTrue out := by
  intro hup
  simp [h] at hup

theorem tellsTrue_of_move (hmove : Move s e s' last) (hopens : e.opens = false)
    (htaken : e.missed = false) (h : s.TellsTrue out) : s'.TellsTrue (out ++ last) := by
  cases hmove with
  | dial hdials => exact TellsTrue.down rfl
  | wait hfails hon hleft => exact TellsTrue.down rfl
  | fail hfails hover => exact TellsTrue.down rfl
  | crash hphase hping => exact TellsTrue.down rfl
  | handleDisconnect hphase hqueue => exact TellsTrue.down rfl
  | drain hphase hqueue hheld => exact TellsTrue.down rfl
  | opened hphase => cases hopens
  | lookUp hphase =>
    exact h.same (by simp [hphase, Phase.isUp]) (by simp [announced, hphase]) (by simp)
  | serve hphase hping =>
    exact h.same (by simp [hphase, Phase.isUp]) (by simp [announced, hphase]) (by simp)
  | @receive frame active hphase =>
    refine h.same id (fun _ => rfl) fun message => ?_
    rcases receive_cases s frame with hlast | ⟨_, hlast⟩ | ⟨_, _, hlast⟩ <;> simp [hlast]
  | @announce d taken todo active hphase htodo =>
    obtain rfl : taken = true := by simpa [Event.missed] using htaken
    intro _ c
    rw [if_pos rfl, told_concat_subscribe, ← h.of_announcing hphase]
    exact List.mem_cons
  | @handleSubscribe taken active d rest hphase hqueue hactive =>
    obtain rfl : taken = true := by simpa [Event.missed] using htaken
    intro _ c
    rw [if_pos rfl, List.append_cons, told_concat_subscribe, told_concat_of_unsent (by simp),
      ← h.of_serving hphase]
    exact List.mem_cons
  | @handleUnsubscribe taken active d rest hphase hqueue =>
    obtain rfl : taken = true := by simpa [Event.missed] using htaken
    intro _ c
    rw [if_pos rfl, List.append_cons, told_concat_unsubscribe, told_concat_of_unsent (by simp),
      ← h.of_serving hphase]
    simp [announced, and_comm]
  | _ => exact h.same id (fun _ => rfl) (by simp)

/-- How the socket stands to the channels that were registered when the replay looked them up: those in
`order` have been announced, those in `todo` are still to be. -/
structure Course (registered : List String) (s : Client κ) (out : List (Effect κ))
    (order todo : List String) : Prop where
  perm : (order ++ todo).Perm registered
  orderly : Orderly order (handledIn out) (record out)
  replaying : ∀ rest active, s.phase = .announcing rest active → rest = todo ∧ handledIn out = []
  replayed : todo ≠ [] → ∃ active, s.phase = .announcing todo active
  past : s.phase ≠ .opening
  tellsTrue : s.TellsTrue out

variable {registered order todo : List String}

theorem Course.todo_eq_nil (h : Course registered s out order todo)
    (hphase : ∀ active, s.phase ≠ .announcing todo active) : todo = [] := by
  by_contra hne
  obtain ⟨active, hannouncing⟩ := h.replayed hne
  exact hphase active hannouncing

theorem Course.of_dials (h : Course registered s out order todo) (hdials : s.Dials e) :
    todo = [] := by
  refine h.todo_eq_nil fun active hphase => ?_
  rcases dials_iff.1 hdials with ⟨-, hs⟩ | ⟨-, delay, hs⟩ <;> simp [hs] at hphase

theorem Course.of_fails (h : Course registered s out order todo) (hfails : s.Fails e) :
    todo = [] := by
  refine h.todo_eq_nil fun active hphase => ?_
  rcases fails_iff.1 hfails with ⟨-, hs⟩ | ⟨-, serving, hs⟩ <;> simp [hs] at hphase

theorem Course.orderly_append (h : Course registered s out order todo) (hrecord : record last = [])
    (hhandled : handledIn last = []) :
    Orderly order (handledIn (out ++ last)) (record (out ++ last)) := by
  rw [handledIn_append, record_append, hrecord, hhandled, List.append_nil, List.append_nil]
  exact h.orderly

/-- Nothing is added to the record, and the loop stands where it stood. -/
theorem Course.same (h : Course registered s out order todo) (hphase : s'.phase = s.phase)
    (hrecord : record last = []) (hhandled : handledIn last = [])
    (htrue : s'.TellsTrue (out ++ last)) : Course registered s' (out ++ last) order todo where
  perm := h.perm
  orderly := h.orderly_append hrecord hhandled
  replaying rest active hs := by
    simpa [handledIn_append, hhandled] using h.replaying rest active (hphase ▸ hs)
  replayed hne := by simpa [hphase] using h.replayed hne
  past := by simpa [hphase] using h.past
  tellsTrue := htrue

theorem Course.on (h : Course registered s out order todo) (hover : todo = [])
    (hpast : s'.phase ≠ .opening) (hphase : ∀ rest active, s'.phase ≠ .announcing rest active)
    (horderly : Orderly order (handledIn (out ++ last)) (record (out ++ last)))
    (htrue : s'.TellsTrue (out ++ last)) : Course registered s' (out ++ last) order todo where
  perm := h.perm
  orderly := horderly
  replaying rest active hs := absurd hs (hphase rest active)
  replayed hne := absurd hover hne
  past := hpast
  tellsTrue := htrue

theorem Course.announce {rest active : List String} {c : String}
    (h : Course registered s out order todo) (hphase : s.phase = .announcing rest active)
    (hrest : c ∈ rest) (hphase' : s'.phase = .announcing (rest.erase c) (c :: active))
    (htrue : s'.TellsTrue (out ++ [.sent (.subscribe c)])) :
    Course registered s' (out ++ [.sent (.subscribe c)]) (order ++ [c]) (todo.erase c) := by
  obtain ⟨rfl, hhandled⟩ := h.replaying rest active hphase
  have hnone : handledIn (out ++ [.sent (.subscribe c)]) = [] := by
    rw [handledIn_append, hhandled]
    rfl
  refine ⟨?_, ?_, fun rest' active' hs => ?_, fun _ => ⟨_, hphase'⟩, by simp [hphase'], htrue⟩
  · rw [List.append_assoc]
    exact (List.Perm.append_left order (List.perm_cons_erase hrest)).symm.trans h.perm
  · have hlog := h.orderly
    rw [hhandled] at hlog
    have hall : announcements (order ++ [c]) = record out ++ [(.sent (.subscribe c) : Effect κ)] := by
      rw [eq_announcements_of_orderly hlog]
      exact List.map_append
    rw [hnone, record_append]
    exact hall ▸ Orderly.replayed
  · rw [hphase'] at hs
    cases hs
    exact ⟨rfl, hnone⟩

theorem Course.stopped (first : List (Effect κ)) (queue : List Command)
    (h : Course registered s out order todo) (hover : todo = []) (hphase : s'.phase = .ended)
    (hrecord : record first = []) (hhandled : handledIn first = []) :
    Course registered s' (out ++ (first ++ queue.flatMap (refusal s.abandoned))) order todo := by
  refine h.on hover (by simp [hphase]) (by simp [hphase]) (h.orderly_append ?_ ?_)
    (TellsTrue.down (by rw [hphase]; rfl))
  · rw [record_append, hrecord, record_refusals, List.append_nil]
  · rw [handledIn_append, hhandled, handledIn_refusals, List.append_nil]

theorem course_of_handle {taken : Bool} (h : Course registered s out order todo)
    (hmove : Move s (.handle taken) s' last) (htaken : (.handle taken : Event κ).missed = false) :
    Course registered s' (out ++ last) order todo := by
  have htrue : s'.TellsTrue (out ++ last) := tellsTrue_of_move hmove rfl htaken h.tellsTrue
  have hserving : ∀ active, s.phase = .serving active → todo = [] := fun active hphase =>
    h.todo_eq_nil (by simp [hphase])
  obtain rfl : taken = true := by simpa [Event.missed] using htaken
  cases hmove with
  | dial hdials => exact hdials.elim
  | wait hfails _ _ => exact hfails.elim
  | fail hfails _ => exact hfails.elim
  | handleKnown hphase hqueue hactive =>
    refine h.on (hserving _ hphase) (by simp [hphase]) (by simp [hphase]) ?_ htrue
    rw [handledIn_append, record_append]
    exact h.orderly.known ((told_record out).2 ((h.tellsTrue.of_serving hphase).1 hactive))
  | handleSubscribe hphase hqueue hactive =>
    refine h.on (hserving _ hphase) (by simp) (by simp) ?_ htrue
    rw [handledIn_append, record_append]
    exact h.orderly.subscribed fun htold =>
      hactive ((h.tellsTrue.of_serving hphase).2 ((told_record out).1 htold))
  | handleUnsubscribe hphase hqueue =>
    refine h.on (hserving _ hphase) (by simp) (by simp) ?_ htrue
    rw [handledIn_append, record_append]
    exact h.orderly.unsubscribed
  | handleStale hphase hqueue hgone =>
    refine h.on (hserving _ hphase) (by simp [hphase]) (by simp [hphase]) ?_ htrue
    rw [handledIn_append, record_append]
    exact h.orderly.dropped
  | handleInsert hphase hqueue hgone =>
    refine h.on (hserving _ hphase) (by simp [hphase]) (by simp [hphase]) ?_ htrue
    rw [handledIn_append, record_append]
    exact h.orderly.inserted
  | @handleDisconnect _ active rest hphase hqueue =>
    refine h.on (hserving _ hphase) (by simp) (by simp) ?_ htrue
    have hrecord : record (.handled .disconnect :: .entered .disconnected ::
        rest.flatMap (refusal s.abandoned)) = [(.handled .disconnect : Effect κ)] :=
      congrArg (List.cons _) (record_refusals s.abandoned rest)
    have hhandled : handledIn ((.handled .disconnect : Effect κ) :: .entered .disconnected ::
        rest.flatMap (refusal s.abandoned)) = [.disconnect] :=
      congrArg (List.cons _) (handledIn_refusals s.abandoned rest)
    rw [handledIn_append, record_append, hrecord, hhandled]
    exact h.orderly.closed

theorem course_of_move (h : Course registered s out order todo) (hmove : Move s e s' last)
    (hopens : e.opens = false) (htaken : e.missed = false) :
    ∃ order' todo', Course registered s' (out ++ last) order' todo' := by
  have htrue : s'.TellsTrue (out ++ last) := tellsTrue_of_move hmove hopens htaken h.tellsTrue
  cases hmove with
  | opened hphase => cases hopens
  | lookUp hphase => exact absurd hphase h.past
  | @announce d taken rest active hphase hrest =>
    obtain rfl : taken = true := by simpa [Event.missed] using htaken
    exact ⟨_, _, h.announce hphase hrest rfl htrue⟩
  | dial hdials =>
    exact ⟨_, _, h.on (h.of_dials hdials) (by simp) (by simp) (h.orderly_append rfl rfl) htrue⟩
  | wait hfails hon hleft =>
    exact ⟨_, _, h.on (h.of_fails hfails) (by simp) (by simp) (h.orderly_append rfl rfl) htrue⟩
  | fail hfails hover => exact ⟨_, _, h.stopped [.entered .error] s.queue (h.of_fails hfails) rfl rfl rfl⟩
  | serve hphase hping =>
    have hover : todo = [] := (h.replaying _ _ hphase).1.symm
    exact ⟨_, _, h.on hover (by simp) (by simp) (h.orderly_append rfl rfl) htrue⟩
  | crash hphase hping =>
    have hover : todo = [] := (h.replaying _ _ hphase).1.symm
    exact ⟨_, _, h.stopped [] s.queue hover rfl rfl rfl⟩
  | handleKnown hphase hqueue hactive =>
    exact ⟨_, _, course_of_handle h (.handleKnown hphase hqueue hactive) htaken⟩
  | handleSubscribe hphase hqueue hactive =>
    exact ⟨_, _, course_of_handle h (.handleSubscribe hphase hqueue hactive) htaken⟩
  | handleUnsubscribe hphase hqueue =>
    exact ⟨_, _, course_of_handle h (.handleUnsubscribe hphase hqueue) htaken⟩
  | handleStale hphase hqueue hgone =>
    exact ⟨_, _, course_of_handle h (.handleStale hphase hqueue hgone) htaken⟩
  | handleInsert hphase hqueue hgone =>
    exact ⟨_, _, course_of_handle h (.handleInsert hphase hqueue hgone) htaken⟩
  | handleUnsent hphase hqueue hgone => cases htaken
  | handleDisconnect hphase hqueue =>
    exact ⟨_, _, course_of_handle h (.handleDisconnect hphase hqueue) htaken⟩
  | @receive frame active hphase =>
    rcases receive_cases s frame with hlast | ⟨_, hlast⟩ | ⟨_, _, hlast⟩ <;> rw [hlast] at htrue ⊢
    · exact ⟨_, _, h.same rfl rfl rfl htrue⟩
    · exact ⟨_, _, h.same rfl rfl rfl htrue⟩
    · exact ⟨_, _, h.same rfl rfl rfl htrue⟩
  | @tick taken active hphase => cases taken <;> exact ⟨_, _, h.same rfl rfl rfl htrue⟩
  | drain hphase hqueue hheld =>
    have hover : todo = [] := h.todo_eq_nil (by simp [hphase])
    exact ⟨_, _, h.on hover (by simp) (by simp) (h.orderly_append rfl rfl) htrue⟩
  | _ => exact ⟨_, _, h.same rfl rfl rfl htrue⟩

theorem nodup_of_move (hmove : Move s e s' last) (h : s.registry.channels.Nodup) :
    s'.registry.channels.Nodup := by
  cases hmove with
  | subscribe hheld => exact Registry.nodup_channels_add h _ _
  | unsubscribe hheld => exact Registry.nodup_channels_remove h _
  | declinedSubscribe hcall hphase => exact Registry.nodup_channels_remove h _
  | _ => exact h

theorem nodup_of_run {policy : ReconnectPolicy} (hrun : (connect policy).run es = some (s, out)) :
    s.registry.channels.Nodup :=
  run_induction (P := fun _ s _ => s.registry.channels.Nodup) (by simp [connect, Registry.channels])
    (fun _ ih hmove => nodup_of_move hmove ih) hrun

/-- A loop comes to a socket that has just opened only by opening it. -/
theorem opening_of_move (hmove : Move s e s' last) (hopens : e.opens = false)
    (hphase : s'.phase = .opening) : s.phase = .opening ∧ record last = [] := by
  cases hmove with
  | opened _ => cases hopens
  | receive hserving => simp [hserving] at hphase
  | _ => simp_all [record, Effect.isRecorded]

/-- It leaves it only to look up what is registered. -/
theorem opening_of_not_recall (hmove : Move s e s' last) (hrecall : e ≠ .recall)
    (hphase : s.phase = .opening) : s'.phase = .opening := by
  cases hmove with
  | dial hdials => rcases dials_iff.1 hdials with ⟨-, hs⟩ | ⟨-, delay, hs⟩ <;> simp [hs] at hphase
  | wait hfails hon hleft =>
    rcases fails_iff.1 hfails with ⟨-, hs⟩ | ⟨-, active, hs⟩ <;> simp [hs] at hphase
  | fail hfails hover =>
    rcases fails_iff.1 hfails with ⟨-, hs⟩ | ⟨-, active, hs⟩ <;> simp [hs] at hphase
  | lookUp _ => exact absurd rfl hrecall
  | _ => simp_all

/-- Before the replay begins nothing goes out. -/
theorem record_of_opening {opened : Client κ} (hrun : opened.run es = some (s, out))
    (hopened : opened.phase = .opening) (hsocket : ∀ e ∈ es, e.opens = false) :
    (s.phase = .opening → record out = []) ∧ (.recall ∉ es → s.phase = .opening) := by
  revert hsocket
  refine run_induction (P := fun es s out => (∀ e ∈ es, e.opens = false) →
    (s.phase = .opening → record out = []) ∧ (.recall ∉ es → s.phase = .opening)) ?_ ?_ hrun
  · exact fun _ => ⟨fun _ => rfl, fun _ => hopened⟩
  · intro es s out e s' last _ ih hmove hsocket
    obtain ⟨hnone, hstill⟩ := ih fun e he => hsocket e (List.mem_append_left _ he)
    have hopens : e.opens = false := hsocket e (by simp)
    refine ⟨fun hphase => ?_, fun hrecall => ?_⟩
    · obtain ⟨hbefore, hlast⟩ := opening_of_move hmove hopens hphase
      rw [record_append, hnone hbefore, hlast, List.append_nil]
    · simp only [List.mem_append, List.mem_singleton, not_or] at hrecall
      exact opening_of_not_recall hmove (Ne.symm hrecall.2) (hstill hrecall.1)

theorem tellsTrue_of_run {opened : Client κ} (hrun : opened.run es = some (s, out))
    (hopened : opened.phase = .opening) (hsocket : ∀ e ∈ es, e.opens = false)
    (htaken : ∀ e ∈ es, e.missed = false) : s.TellsTrue out := by
  revert hsocket htaken
  refine run_induction (P := fun es s out => (∀ e ∈ es, e.opens = false) →
    (∀ e ∈ es, e.missed = false) → s.TellsTrue out) ?_ ?_ hrun
  · intro _ _ _ c
    simp [announced, hopened, not_told_nil]
  · intro es s out e s' last _ ih hmove hsocket htaken
    rw [List.forall_mem_append] at hsocket htaken
    exact tellsTrue_of_move hmove (hsocket.2 e (by simp)) (htaken.2 e (by simp))
      (ih hsocket.1 htaken.1)

theorem course_of_run {m : Client κ} {begun : List (Effect κ)} (hrun : m.run es = some (s, out))
    (hm : Course registered m begun [] registered) (hsocket : ∀ e ∈ es, e.opens = false)
    (htaken : ∀ e ∈ es, e.missed = false) :
    ∃ order todo, Course registered s (begun ++ out) order todo := by
  revert hsocket htaken
  refine run_induction (P := fun es s out => (∀ e ∈ es, e.opens = false) →
    (∀ e ∈ es, e.missed = false) → ∃ order todo, Course registered s (begun ++ out) order todo)
    ?_ ?_ hrun
  · intro _ _
    rw [List.append_nil]
    exact ⟨_, _, hm⟩
  · intro es s out e s' last _ ih hmove hsocket htaken
    rw [List.forall_mem_append] at hsocket htaken
    obtain ⟨order, todo, h⟩ := ih hsocket.1 htaken.1
    rw [← List.append_assoc]
    exact course_of_move h hmove (hsocket.2 e (by simp)) (htaken.2 e (by simp))

/-- The replay begins with nothing told and all that is registered to announce. -/
theorem course_of_lookUp {begun : List (Effect κ)} (hrecord : record begun = [])
    (hphase : s.phase = .announcing registered []) (htrue : s.TellsTrue begun) :
    Course registered s begun [] registered := by
  have hhandled : handledIn begun = [] := by rw [← handledIn_record, hrecord]; rfl
  refine ⟨List.Perm.refl _, ?_, fun rest active hs => ?_, fun _ => ⟨_, hphase⟩, by simp [hphase],
    htrue⟩
  · rw [hhandled, hrecord]
    exact .replayed
  · rw [hphase] at hs
    cases hs
    exact ⟨rfl, hhandled⟩

theorem opening_of_opened (hmove : Move s .opened s' last) : s'.phase = .opening := by
  cases hmove with
  | opened _ => rfl
  | dial hdials => exact hdials.elim
  | wait hfails _ _ => exact hfails.elim
  | fail hfails _ => exact hfails.elim

theorem announcing_of_recall (hmove : Move s .recall s' last) :
    s.phase = .opening ∧ last = [] ∧ s'.phase = .announcing s.registry.channels [] := by
  cases hmove with
  | lookUp hphase => exact ⟨hphase, rfl, rfl⟩
  | dial hdials => exact hdials.elim
  | wait hfails _ _ => exact hfails.elim
  | fail hfails _ => exact hfails.elim

/-- On a socket on which the replay looked up what is registered. -/
theorem course_of_socket {opened : Client κ} {first rest : List (Event κ)}
    (hrun : opened.run (first ++ .recall :: rest) = some (s, out))
    (hopened : opened.phase = .opening)
    (hsocket : ∀ e ∈ first ++ .recall :: rest, e.opens = false)
    (htaken : ∀ e ∈ first ++ .recall :: rest, e.missed = false) :
    ∃ m begun order todo, opened.run first = some (m, begun) ∧ record begun = [] ∧
      Course m.registry.channels s out order todo := by
  rw [List.forall_mem_append, List.forall_mem_cons] at hsocket htaken
  obtain ⟨m, begun, _, hfirst, hrest, rfl⟩ := run_append_iff.1 hrun
  obtain ⟨n, _, later, hrecall, hlater, rfl⟩ := run_cons_iff.1 hrest
  obtain ⟨hphase, rfl, hannouncing⟩ := announcing_of_recall hrecall
  have hrecord : record begun = [] := (record_of_opening hfirst hopened hsocket.1).1 hphase
  have htrue : n.TellsTrue (begun ++ []) := tellsTrue_of_move hrecall rfl rfl
    (tellsTrue_of_run hfirst hopened hsocket.1 htaken.1)
  rw [List.append_nil] at htrue
  obtain ⟨order, todo, h⟩ := course_of_run hlater (course_of_lookUp hrecord hannouncing htrue)
    hsocket.2.2 htaken.2.2
  exact ⟨m, begun, order, todo, hfirst, hrecord, h⟩

/-- What goes out on a socket, from the time it opens until another one does, as long as it takes what
it is handed. Before the replay nothing goes out. The replay announces what is registered when it looks
it up, each channel once, and until it has announced all of it no command is handled. Then each handled
command is followed by the frame it calls for: an unsubscribe by one frame, and a subscribe by one just
if the frames so far do not already say so. At all times the announced channels are those that the
frames say are subscribed to, and no channel is subscribed to twice in a row. -/
theorem socket_orderly {policy : ReconnectPolicy} {before during : List (Event κ)}
    {opened : Client κ} {past : List (Effect κ)}
    (hbefore : (connect policy).run (before ++ [.opened]) = some (opened, past))
    (hrun : opened.run during = some (s, out)) (hsocket : .opened ∉ during)
    (htaken : ∀ e ∈ during, e.missed = false) :
    (.recall ∉ during → record out = []) ∧
    (∀ first rest, during = first ++ .recall :: rest → ∃ m begun order todo,
      opened.run first = some (m, begun) ∧ record begun = [] ∧
      (order ++ todo).Perm m.registry.channels ∧ (order ++ todo).Nodup ∧
      Orderly order (handledIn out) (record out) ∧
      (todo ≠ [] → handledIn out = [] ∧ ∃ active, s.phase = .announcing todo active)) ∧
    (s.phase.isUp = true → ∀ c, c ∈ s.announced ↔ Told c out) ∧
    ∀ c start mid rest, out = start ++ .sent (.subscribe c) :: mid ++ .sent (.subscribe c) :: rest →
      .sent (.unsubscribe c) ∈ mid := by
  have hopens : ∀ e ∈ during, e.opens = false := by
    intro e he
    cases e with
    | opened => exact absurd he hsocket
    | _ => rfl
  have hopened : opened.phase = .opening := by
    obtain ⟨n, _, _, _, hlast, _⟩ := run_append_iff.1 hbefore
    exact opening_of_opened (run_singleton_iff.1 hlast)
  have hnone : .recall ∉ during → record out = [] := fun hrecall =>
    (record_of_opening hrun hopened hopens).1 ((record_of_opening hrun hopened hopens).2 hrecall)
  have hreplay : ∀ first rest, during = first ++ .recall :: rest → ∃ m begun order todo,
      opened.run first = some (m, begun) ∧ record begun = [] ∧ (order ++ todo).Nodup ∧
      Course m.registry.channels s out order todo := by
    rintro first rest rfl
    obtain ⟨m, begun, order, todo, hfirst, hrecord, h⟩ :=
      course_of_socket hrun hopened hopens htaken
    have hnodup : m.registry.channels.Nodup :=
      nodup_of_run (run_append_iff.2 ⟨_, _, _, hbefore, hfirst, rfl⟩)
    exact ⟨m, begun, order, todo, hfirst, hrecord, h.perm.nodup_iff.2 hnodup, h⟩
  refine ⟨hnone, fun first rest hsplit => ?_, tellsTrue_of_run hrun hopened hopens htaken,
    fun c start mid rest hsplit => unsubscribed_between ?_ hsplit⟩
  · obtain ⟨m, begun, order, todo, hfirst, hrecord, hnodup, h⟩ := hreplay first rest hsplit
    refine ⟨m, begun, order, todo, hfirst, hrecord, h.perm, hnodup, h.orderly, fun hne => ?_⟩
    obtain ⟨active, hphase⟩ := h.replayed hne
    exact ⟨(h.replaying _ _ hphase).2, active, hphase⟩
  · -- A socket that is not replayed on has sent nothing, and any other is orderly.
    by_cases hrecall : .recall ∈ during
    · obtain ⟨first, rest, hsplit⟩ := List.append_of_mem hrecall
      obtain ⟨m, begun, order, todo, -, -, hnodup, h⟩ := hreplay first rest hsplit
      exact fresh_of_orderly h.orderly (List.nodup_append.1 hnodup).1
    · rw [hnone hrecall]
      exact fun c start rest hsplit => by simp at hsplit

def interrupted : List (Event Nat) :=
  [.start, .opened, .recall, .serve, .callSubscribe "a" 1, .enqueue 0, .handle true,
    .callSubscribe "b" 2, .enqueue 0, .lost, .elapsed]

/-- On the next socket the command comes after the replay that has announced its channel already;
then one channel gets another callback and the other one is left and taken up again. -/
def resumed : List (Event Nat) :=
  [.recall, .announce "b" true, .announce "a" true, .serve, .handle true, .callSubscribe "a" 3,
    .enqueue 0, .handle true, .callUnsubscribe "b", .enqueue 0, .handle true,
    .callSubscribe "b" 4, .enqueue 0, .handle true]

theorem socket_orderly_resumed : ∃ opened past s out,
    (connect {}).run (interrupted ++ [.opened]) = some (opened, past) ∧
    opened.run resumed = some (s, out) ∧ .opened ∉ resumed ∧ (∀ e ∈ resumed, e.missed = false) ∧
    record out = [.sent (.subscribe "b"), .sent (.subscribe "a"), .handled (.subscribe "b"),
      .handled (.subscribe "a"), .handled (.unsubscribe "b"), .sent (.unsubscribe "b"),
      .handled (.subscribe "b"), .sent (.subscribe "b")] ∧
    (∃ order, order.Perm ["a", "b"] ∧ Orderly order (handledIn out) (record out)) ∧
    ∀ c, c ∈ s.announced ↔ Told c out := by
  obtain ⟨opened, past, s, out, hbefore, hrun, hrecord, hchannels, hphase⟩ :
      ∃ opened past s out, (connect {}).run (interrupted ++ [.opened]) = some (opened, past) ∧
        opened.run resumed = some (s, out) ∧
        record out = [.sent (.subscribe "b"), .sent (.subscribe "a"), .handled (.subscribe "b"),
          .handled (.subscribe "a"), .handled (.unsubscribe "b"), .sent (.unsubscribe "b"),
          .handled (.subscribe "b"), .sent (.subscribe "b")] ∧
        opened.registry.channels = ["a", "b"] ∧ s.phase = .serving ["b", "a"] :=
    ⟨_, _, _, _, rfl, rfl, rfl, rfl, rfl⟩
  have hsocket : .opened ∉ resumed := by simp [resumed]
  have htaken : ∀ e ∈ resumed, e.missed = false := by decide
  obtain ⟨-, hreplay, htrue, -⟩ := socket_orderly hbefore hrun hsocket htaken
  obtain ⟨m, begun, order, todo, hfirst, -, hperm, -, horderly, hleft⟩ := hreplay [] _ rfl
  obtain ⟨rfl, rfl⟩ := runSteps_nil_iff.1 hfirst
  have hdone : todo = [] := by
    by_contra hne
    obtain ⟨-, active, hannouncing⟩ := hleft hne
    simp [hphase] at hannouncing
  rw [hdone, List.append_nil, hchannels] at hperm
  exact ⟨opened, past, s, out, hbefore, hrun, hsocket, htaken, hrecord, ⟨order, hperm, horderly⟩,
    htrue (by simp [hphase, Phase.isUp])⟩

end Client
end SeriesClient.Push
