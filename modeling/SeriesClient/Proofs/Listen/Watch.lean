import SeriesClient.Proofs.Listen.Audience
import Mathlib.Data.List.Basic

/-! A watch yields what is dispatched on its channel, all of it, once, and in its order, from the time
it is registered to the time its callback is replaced or removed. What it has yielded and what waits in
its inbox are together what its callback was run on; and the callback is run on every update on the
channel for as long as no other call is made on it, whatever happens to the connection meanwhile. How
the inbox is read, or that it is let go of, is nothing to anybody else. -/

namespace SeriesClient.Audience

open Push

variable {κ : Type} {d d' m : Audience κ} {h : Happening κ} {hs : List (Happening κ)}
  {new log : List (Note κ)} {n : Nat} {c : String}

def Happening.calls (c : String) (h : Happening κ) : Bool :=
  h.event?.bind Event.calledOn? == some c

def Happening.update? (h : Happening κ) : Option Update := h.event?.bind Event.update?

def dispatched (c : String) (hs : List (Happening κ)) : List Update :=
  (hs.filterMap Happening.update?).filter (·.channel == c)

/-- As long as nobody makes a call on the channel. -/
def tenure (c : String) (hs : List (Happening κ)) : List (Happening κ) := hs.takeWhile (!·.calls c)

theorem dispatched_append (later : List (Happening κ)) :
    dispatched c (hs ++ later) = dispatched c hs ++ dispatched c later := by
  rw [dispatched, List.filterMap_append, List.filter_append, ← dispatched, ← dispatched]

theorem tenure_concat (hs : List (Happening κ)) (h : Happening κ) :
    tenure c (hs ++ [h]) =
      if hs.all (!·.calls c) then hs ++ tenure c [h] else tenure c hs := by
  rw [tenure, List.takeWhile_append]
  by_cases hall : hs.all (!·.calls c) = true
  · rw [if_pos hall, if_pos, tenure]
    rw [List.takeWhile_eq_self_iff.2 (by simpa using hall)]
  · rw [if_neg hall, if_neg, tenure]
    intro hlength
    have hself := List.takeWhile_eq_self_iff.1 ((List.takeWhile_prefix _).eq_of_length hlength)
    exact hall (by simpa using hself)

theorem feeds_iff (hnodup : d.client.registry.channels.Nodup) (hd : d.Seated)
    (hn : d.channel? n = some c) :
    d.feeds n = true ↔
      (d.client.held = true ∨ d.client.phase ≠ .ended) ∧
        d.client.registry.find? c = some (.seat n) := by
  simp only [feeds, Bool.and_eq_true, Bool.or_eq_true, decide_eq_true_eq, List.any_eq_true,
    Prod.exists, sits_iff]
  refine and_congr_right fun _ => ⟨?_, ?_⟩
  · rintro ⟨b, _, hmem, rfl⟩
    have hfind := Registry.find?_of_mem hnodup hmem
    obtain rfl : b = c := Option.some.inj ((hd b n hfind).symm.trans hn)
    exact hfind
  · intro hfind
    exact ⟨c, _, Registry.mem_of_find? hfind, rfl⟩

theorem callback_ne {e : Event (Hearer κ)} (hn : d.channel? n = some c) (hevent : h.event? = some e)
    (hfits : h.fits d.seats.length = true) : e.callback? ≠ some (.seat n) := by
  intro hcallback
  cases e with
  | callSubscribe b k =>
    obtain rfl : k = .seat n := Option.some.inj hcallback
    obtain ⟨hnew, -⟩ := channel_of_event hevent hfits
    obtain ⟨seat, hseat, -⟩ := Option.map_eq_some_iff.1 hn
    have hlt : n < d.seats.length := (List.getElem?_eq_some_iff.1 hseat).1
    omega
  | _ => cases hcallback

/-- Once it is gone it does not come back. -/
theorem find?_of_turn (hn : d.channel? n = some c) (hturn : Turn d h d' new)
    (hfind : d'.client.registry.find? c = some (.seat n)) :
    d.client.registry.find? c = some (.seat n) := by
  cases hturn with
  | event hfits hevent hmove =>
    rw [← Client.find?_of_quiet hmove ?_ ?_]
    · exact hfind
    · intro hcall
      rw [Client.find?_of_call hmove hcall] at hfind
      exact callback_ne hn hevent hfits hfind
    · intro hdeclined
      obtain ⟨-, -, -, -, hnone⟩ := Client.find?_of_declined hmove hdeclined
      cases hnone.symm.trans hfind
  | idle hfits hevent hreads => exact hfind
  | took hinbox htake => exact hfind
  | left hinbox => exact hfind

theorem hold_of_turn (hturn : Turn d h d' new)
    (hhold : d'.client.held = true ∨ d'.client.phase ≠ .ended) :
    d.client.held = true ∨ d.client.phase ≠ .ended := by
  cases hturn with
  | event hfits hevent hmove =>
    rcases hhold with hheld | halive
    · left
      cases hmove with
      | dropHandles _ _ => cases hheld
      | _ => exact hheld
    · exact Or.inr (Client.not_ended_of_move hmove halive)
  | idle hfits hevent hreads => exact hhold
  | took hinbox htake => exact hhold
  | left hinbox => exact hhold

/-- What is known of all that is reached. -/
structure Sound (d : Audience κ) : Prop where
  seated : d.Seated
  nodup : d.client.registry.channels.Nodup

theorem sound_of_run {policy : ReconnectPolicy} (hrun : (start policy).run hs = some (d, log)) :
    d.Sound := ⟨seated_of_run hrun, reachable_nodup hrun⟩

theorem sound_of_turn (hturn : Turn d h d' new) (hd : d.Sound) : d'.Sound := by
  refine ⟨seated_of_turn hturn hd.seated, ?_⟩
  cases hturn with
  | event hfits hevent hmove => exact Client.nodup_of_move hmove hd.nodup
  | idle hfits hevent hreads => exact hd.nodup
  | took hinbox htake => exact hd.nodup
  | left hinbox => exact hd.nodup

theorem feeds_of_turn (hd : d.Sound) (hn : d.channel? n = some c) (hturn : Turn d h d' new)
    (hfed : d'.feeds n = true) : d.feeds n = true := by
  have hd' := sound_of_turn hturn hd
  have hn' := channel?_of_turn hturn hn
  obtain ⟨hhold, hfind⟩ := (feeds_iff hd'.nodup hd'.seated hn').1 hfed
  exact (feeds_iff hd.nodup hd.seated hn).2 ⟨hold_of_turn hturn hhold, find?_of_turn hn hturn hfind⟩

/-- A seat whose callback is gone hears nothing any more. -/
theorem heard_of_unfed (hd : d.Sound) (hn : d.channel? n = some c) (hturn : Turn d h d' new)
    (hunfed : d.feeds n = false) : heard n (effects new) = [] := by
  cases hturn with
  | event hfits hevent hmove =>
    rw [effects_map, List.eq_nil_iff_forall_not_mem]
    intro update hmem
    obtain ⟨hupdate, hfind⟩ := mem_heard_of_move hmove hmem
    obtain rfl : update.channel = c := Option.some.inj ((hd.seated _ _ hfind).symm.trans hn)
    have halive := Client.not_ended_of_update hmove (by simp [hupdate])
    have hfed := (feeds_iff hd.nodup hd.seated hn).2 ⟨Or.inr halive, hfind⟩
    simp [hunfed] at hfed
  | idle hfits hevent hreads => rfl
  | took hinbox htake => rfl
  | left hinbox => rfl

/-- How a callback of the seat stands after what has happened since it was registered. -/
structure Attends (n : Nat) (c : String) (hs : List (Happening κ)) (d : Audience κ)
    (log : List (Note κ)) : Prop where
  channel : d.channel? n = some c
  registered : d.client.registry.find? c = some (.seat n) ↔
    hs.all (!·.calls c) = true ∧ .declined (.subscribe c) ∉ effects log
  declined : .declined (.subscribe c) ∈ effects log → d.client.phase = .ended
  heard : heard n (effects log) = dispatched c (tenure c hs)

theorem calls_iff {e : Event (Hearer κ)} (hevent : h.event? = some e) :
    h.calls c = true ↔ e.calledOn? = some c := by
  simp [Happening.calls, hevent]

theorem dispatched_singleton (c : String) (h : Happening κ) :
    dispatched c (tenure c [h]) = (h.update?.filter (·.channel == c)).toList := by
  have hnone : h.calls c = true → h.update? = none := by
    intro hcalls
    cases hevent : h.event? with
    | none => simp [Happening.update?, hevent]
    | some e =>
      rw [calls_iff hevent] at hcalls
      cases e with
      | receive frame => cases hcalls
      | _ => simp [Happening.update?, hevent, Event.update?]
  by_cases hcalls : h.calls c = true
  · simp [tenure, hcalls, hnone hcalls, dispatched]
  · cases hupdate : h.update? with
    | none => simp [tenure, hcalls, dispatched, hupdate]
    | some update =>
      by_cases hc : update.channel = c <;>
        simp [tenure, hcalls, dispatched, hupdate, hc, Option.filter]

theorem dispatched_tenure_concat (hs : List (Happening κ)) (h : Happening κ) :
    dispatched c (tenure c (hs ++ [h])) = dispatched c (tenure c hs) ++
      if hs.all (!·.calls c) then (h.update?.filter (·.channel == c)).toList else [] := by
  rw [tenure_concat]
  split_ifs with hall
  · have hself : tenure c hs = hs := List.takeWhile_eq_self_iff.2 (by simpa using hall)
    rw [dispatched_append, dispatched_singleton, hself]
  · rw [List.append_nil]

theorem Attends.aside (ha : Attends n c hs d log) (hevent : h.event? = none)
    (hturn : Turn d h d' new) (hclient : d'.client = d.client) (heffects : effects new = []) :
    Attends n c (hs ++ [h]) d' (log ++ new) where
  channel := channel?_of_turn hturn ha.channel
  registered := by
    rw [hclient, effects_append, heffects, List.append_nil, ha.registered, List.all_append]
    simp [Happening.calls, hevent]
  declined := by
    rw [hclient, effects_append, heffects, List.append_nil]
    exact ha.declined
  heard := by
    rw [effects_append, heffects, List.append_nil, ha.heard, dispatched_tenure_concat]
    simp [Happening.update?, hevent]

/-- The callback is run on what comes on its channel until a call is made on that. -/
theorem Attends.runs_iff {e : Event (Hearer κ)} {client : Client (Hearer κ)}
    {out : List (Effect (Hearer κ))} {update : Update} (ha : Attends n c hs d log) (hd : d.Seated)
    (hmove : d.client.Move e client out) (hupdate : e.update? = some update) :
    (d.client.registry.find? update.channel).any (·.sits n) = true ↔
      hs.all (!·.calls c) = true ∧ update.channel = c := by
  rw [Option.any_eq_true]
  constructor
  · rintro ⟨hearer, hfind, hsits⟩
    rw [sits_iff.1 hsits] at hfind
    obtain rfl : update.channel = c := Option.some.inj ((hd _ _ hfind).symm.trans ha.channel)
    exact ⟨(ha.registered.1 hfind).1, rfl⟩
  · rintro ⟨hall, rfl⟩
    have halive := Client.not_ended_of_update hmove (by simp [hupdate])
    have hfind := ha.registered.2 ⟨hall, fun hdeclined => halive (ha.declined hdeclined)⟩
    exact ⟨_, hfind, sits_iff.2 rfl⟩

section
variable {e : Event (Hearer κ)} {client : Client (Hearer κ)} {out : List (Effect (Hearer κ))}

/-- Only a call on the channel takes the callback away. -/
theorem Attends.registered_of_move (ha : Attends n c hs d log) (hevent : h.event? = some e)
    (hfits : h.fits d.seats.length = true) (hmove : d.client.Move e client out)
    (hstays : client.registry.find? c = some (.seat n) →
      d.client.registry.find? c = some (.seat n)) :
    client.registry.find? c = some (.seat n) ↔ (hs ++ [h]).all (!·.calls c) = true ∧
      .declined (.subscribe c) ∉ effects (log ++ out.map .pushed) := by
  rw [effects_append, effects_map, List.all_append, List.mem_append, not_or, Bool.and_eq_true,
    List.all_cons, List.all_nil, Bool.and_true, Bool.not_eq_true', ← Bool.not_eq_true,
    calls_iff hevent]
  constructor
  · intro hfind
    obtain ⟨hall, hdeclined⟩ := ha.registered.1 (hstays hfind)
    refine ⟨⟨hall, ?_⟩, hdeclined, ?_⟩
    · intro hcall
      rw [Client.find?_of_call hmove hcall] at hfind
      exact callback_ne ha.channel hevent hfits hfind
    · intro hmem
      obtain ⟨-, -, -, -, hnone⟩ := Client.find?_of_declined hmove hmem
      cases hnone.symm.trans hfind
  · rintro ⟨⟨hall, hcall⟩, hdeclined, hmem⟩
    rw [Client.find?_of_quiet hmove hcall hmem]
    exact ha.registered.2 ⟨hall, hdeclined⟩

theorem Attends.heard_of_move (ha : Attends n c hs d log) (hd : d.Seated) (hevent : h.event? = some e)
    (hmove : d.client.Move e client out) :
    Audience.heard n (effects (log ++ out.map .pushed)) = dispatched c (tenure c (hs ++ [h])) := by
  have hsame : h.update? = e.update? := by rw [Happening.update?, hevent, Option.bind_some]
  rw [effects_append, effects_map, heard_append, ha.heard, dispatched_tenure_concat,
    Audience.heard_of_move hmove, hsame]
  cases hupdate : e.update? with
  | none => simp
  | some update =>
    have hruns : (d.client.registry.find? update.channel).any (·.sits n) =
        (hs.all (!·.calls c) && update.channel == c) := by
      rw [Bool.eq_iff_iff, Bool.and_eq_true, beq_iff_eq]
      exact ha.runs_iff hd hmove hupdate
    rw [Option.filter_some, Option.filter_some, hruns]
    cases hs.all (!·.calls c) <;> simp

end

theorem attends_of_turn (hd : d.Seated) (ha : Attends n c hs d log) (hturn : Turn d h d' new) :
    Attends n c (hs ++ [h]) d' (log ++ new) := by
  have hstays := find?_of_turn ha.channel hturn
  have hturn' := hturn
  cases hturn with
  | event hfits hevent hmove =>
    refine ⟨channel?_of_turn hturn' ha.channel, ha.registered_of_move hevent hfits hmove hstays, ?_,
      ha.heard_of_move hd hevent hmove⟩
    rw [effects_append, effects_map, List.mem_append]
    rintro (hmem | hmem)
    · by_contra halive
      exact Client.not_ended_of_move hmove halive (ha.declined hmem)
    · obtain ⟨-, -, -, hended, -⟩ := Client.find?_of_declined hmove hmem
      exact hended
  | idle hfits hevent hreads => exact ha.aside hevent hturn' rfl rfl
  | took hinbox htake => exact ha.aside rfl hturn' rfl rfl
  | left hinbox => exact ha.aside rfl hturn' rfl rfl

theorem take?_cases {b rest : Inbox} {fed : Bool} {update : Option Update}
    (h : b.take? fed = some (update, rest)) :
    b.dropped = false ∧
      ((∃ u, update = some u ∧ b.waiting = u :: rest.waiting ∧ rest.dropped = false) ∨
        (update = none ∧ fed = false ∧ b.waiting = [] ∧ rest = b)) := by
  rw [Inbox.take?, Option.ite_none_left_eq_some, Bool.not_eq_true] at h
  obtain ⟨hdropped, h⟩ := h
  refine ⟨hdropped, ?_⟩
  split at h
  · next u others hwaiting =>
    obtain ⟨rfl, rfl⟩ := by simpa using h
    exact Or.inl ⟨u, rfl, hwaiting, hdropped⟩
  · next hwaiting =>
    split_ifs at h with hfed
    obtain ⟨rfl, rfl⟩ := by simpa using h
    exact Or.inr ⟨rfl, by simpa using hfed, hwaiting, rfl⟩

theorem foldl_put (updates : List Update) (b : Inbox) :
    updates.foldl Inbox.put b =
      if b.dropped then b else { b with waiting := b.waiting ++ updates } := by
  induction updates generalizing b with
  | nil => simp
  | cons update updates ih =>
    rw [List.foldl_cons, ih, Inbox.put]
    by_cases hdropped : b.dropped = true <;> simp [hdropped]

theorem foldl_hear (updates : List Update) (seat : Seat) :
    (updates.foldl Seat.hear seat).inbox = seat.inbox.map fun b => updates.foldl Inbox.put b := by
  induction updates generalizing seat with
  | nil => simp
  | cons update updates ih =>
    rw [List.foldl_cons, ih, Seat.hear]
    cases seat.inbox <;> rfl

theorem inbox?_react {client : Client (Hearer κ)} {b : Inbox} (out : List (Effect (Hearer κ)))
    (seats : List Seat) (hn : d.inbox? n = some b) :
    (Audience.mk client (out.foldl react (d.seats ++ seats))).inbox? n =
      some ((heard n out).foldl Inbox.put b) := by
  obtain ⟨seat, hseat, hinbox⟩ := Option.bind_eq_some_iff.1 hn
  have hlt : n < d.seats.length := (List.getElem?_eq_some_iff.1 hseat).1
  rw [inbox?, getElem?_react, List.getElem?_append_left hlt, hseat, Option.map_some,
    Option.bind_some, foldl_hear, hinbox, Option.map_some]

theorem inbox?_setInbox {b : Inbox} (hn : d.inbox? n = some b) (rest : Inbox) :
    (d.setInbox n rest).inbox? n = some rest := by
  obtain ⟨seat, hseat, -⟩ := Option.bind_eq_some_iff.1 hn
  rw [inbox?, setInbox, List.getElem?_modify_eq, hseat]
  rfl

theorem getElem?_setInbox_of_ne {k : Nat} (hk : k ≠ n) (rest : Inbox) :
    (d.setInbox n rest).seats[k]? = d.seats[k]? :=
  List.getElem?_modify_ne _ _ (Ne.symm hk)

/-- How a watch from the seat stands: it has yielded some updates, and then perhaps its end. -/
structure Keeps (n : Nat) (d : Audience κ) (log : List (Note κ)) (inbox : Inbox)
    (yielded : List Update) (ends : Nat) : Prop where
  holds : d.inbox? n = some inbox
  taken : taken n log = yielded.map some ++ List.replicate ends none
  heard_first : yielded <+: heard n (effects log)
  kept : inbox.dropped = false → yielded ++ inbox.waiting = heard n (effects log)
  finished : ends ≠ 0 → d.feeds n = false ∧ inbox.waiting = []

variable {inbox : Inbox} {yielded : List Update} {ends : Nat}

theorem Keeps.aside (hk : Keeps n d log inbox yielded ends) (hinbox : d'.inbox? n = d.inbox? n)
    (hfeeds : d'.feeds n = d.feeds n) (htaken : Audience.taken n new = [])
    (heffects : effects new = []) : Keeps n d' (log ++ new) inbox yielded ends where
  holds := hinbox.trans hk.holds
  taken := by rw [taken_append, htaken, List.append_nil, hk.taken]
  heard_first := by
    rw [effects_append, heffects, List.append_nil]
    exact hk.heard_first
  kept := by
    rw [effects_append, heffects, List.append_nil]
    exact hk.kept
  finished := by
    rw [hfeeds]
    exact hk.finished

/-- What the callback is run on waits in the inbox, unless that has been let go of. -/
theorem Keeps.hears {client : Client (Hearer κ)} {out : List (Effect (Hearer κ))} {seats : List Seat}
    (hk : Keeps n d log inbox yielded ends)
    (hunfed : d.feeds n = false →
      (Audience.mk client (out.foldl react (d.seats ++ seats))).feeds n = false ∧ heard n out = []) :
    Keeps n ⟨client, out.foldl react (d.seats ++ seats)⟩ (log ++ out.map .pushed)
      ((heard n out).foldl Inbox.put inbox) yielded ends where
  holds := inbox?_react _ _ hk.holds
  taken := by rw [taken_append, taken_map, List.append_nil, hk.taken]
  heard_first := by
    rw [effects_append, heard_append]
    exact hk.heard_first.trans (List.prefix_append _ _)
  kept := by
    intro hdropped
    rw [foldl_put] at hdropped ⊢
    split_ifs at hdropped ⊢ with hleft
    · simp [hleft] at hdropped
    · rw [effects_append, effects_map, heard_append, ← hk.kept (by simpa using hleft),
        List.append_assoc]
  finished := by
    intro hends
    obtain ⟨hgone, hwaiting⟩ := hk.finished hends
    obtain ⟨hgone', hnone⟩ := hunfed hgone
    rw [hnone]
    exact ⟨hgone', hwaiting⟩

/-- What is taken from the inbox is yielded. -/
theorem Keeps.takes {rest : Inbox} {update : Option Update} (hk : Keeps n d log inbox yielded ends)
    (htake : inbox.take? (d.feeds n) = some (update, rest)) :
    ∃ yielded' ends', Keeps n (d.setInbox n rest) (log ++ [.took n update]) rest yielded' ends' := by
  obtain ⟨hdropped, ⟨u, rfl, hwaiting, hrest⟩ | ⟨rfl, hgone, hwaiting, rfl⟩⟩ := take?_cases htake
  · have hends : ends = 0 := by
      by_contra hends
      simp [(hk.finished hends).2] at hwaiting
    have hkept := hk.kept hdropped
    rw [hwaiting] at hkept
    refine ⟨yielded ++ [u], 0, inbox?_setInbox hk.holds rest, ?_, ?_, ?_, ?_⟩
    · simp [hk.taken, hends]
    · refine ⟨rest.waiting, ?_⟩
      simpa [effects] using hkept
    · intro _
      simpa [effects] using hkept
    · exact fun hne => absurd rfl hne
  · refine ⟨yielded, ends + 1, inbox?_setInbox hk.holds rest, ?_, ?_, ?_, ?_⟩
    · simp [hk.taken, List.replicate_succ']
    · simpa [effects] using hk.heard_first
    · simpa [effects] using hk.kept
    · exact fun _ => ⟨hgone, hwaiting⟩

theorem Keeps.leaves (hk : Keeps n d log inbox yielded ends) :
    Keeps n (d.setInbox n inbox.drop) log inbox.drop yielded ends where
  holds := inbox?_setInbox hk.holds _
  taken := hk.taken
  heard_first := hk.heard_first
  kept hdropped := by cases hdropped
  finished hends := ⟨(hk.finished hends).1, rfl⟩

theorem keeps_of_turn (hk : Keeps n d log inbox yielded ends)
    (hfed : d'.feeds n = true → d.feeds n = true)
    (hheard : d.feeds n = false → heard n (effects new) = []) (hturn : Turn d h d' new) :
    ∃ inbox' yielded' ends', Keeps n d' (log ++ new) inbox' yielded' ends' := by
  have hapart : ∀ {k : Nat} (rest : Inbox), k ≠ n → (d.setInbox k rest).inbox? n = d.inbox? n := by
    intro k rest hk
    rw [inbox?, getElem?_setInbox_of_ne hk.symm, ← inbox?]
  cases hturn with
  | event hfits hevent hmove =>
    refine ⟨_, _, _, hk.hears fun hunfed => ⟨?_, ?_⟩⟩
    · rw [← Bool.not_eq_true] at hunfed ⊢
      exact fun h => hunfed (hfed h)
    · rw [effects_map] at hheard
      exact hheard hunfed
  | idle hfits hevent hreads => exact ⟨_, _, _, hk.aside rfl rfl rfl rfl⟩
  | @took k b rest update hinbox htake =>
    by_cases hkn : k = n
    · subst hkn
      obtain rfl : inbox = b := Option.some.inj (hk.holds.symm.trans hinbox)
      exact ⟨rest, hk.takes htake⟩
    · exact ⟨_, _, _, hk.aside (hapart rest hkn) rfl (taken_of_ne hkn) rfl⟩
  | @left k b hinbox =>
    by_cases hkn : k = n
    · subst hkn
      obtain rfl : inbox = b := Option.some.inj (hk.holds.symm.trans hinbox)
      rw [List.append_nil]
      exact ⟨_, _, _, hk.leaves⟩
    · exact ⟨_, _, _, hk.aside (hapart b.drop hkn) rfl rfl rfl⟩

/-- After the callback is gone the watch yields what waits, and then its end. -/
theorem takes_all {b : Inbox} (hn : d.inbox? n = some b) (hdropped : b.dropped = false)
    (hunfed : d.feeds n = false) :
    ∃ d', d.run (List.replicate (b.waiting.length + 1) (.take n)) =
      some (d', b.waiting.map (fun update => .took n (some update)) ++ [.took n none]) := by
  obtain ⟨waiting, dropped⟩ := b
  subst hdropped
  induction waiting generalizing d with
  | nil =>
    refine ⟨d.setInbox n {}, ?_⟩
    simp [run, runSteps, step, take, hn, Inbox.take?, hunfed]
  | cons update waiting ih =>
    obtain ⟨d', hrun⟩ := ih (d := d.setInbox n ⟨waiting, false⟩) hunfed (inbox?_setInbox hn _)
    refine ⟨d', runSteps_cons_iff.2 ⟨_, [.took n (some update)], _, ?_, hrun, rfl⟩⟩
    simp [step, take, hn, Inbox.take?]

/-- They differ at one seat at most, and there in its inbox only. -/
structure Alike (n : Nat) (d d' : Audience κ) : Prop where
  client : d'.client = d.client
  length : d'.seats.length = d.seats.length
  others : ∀ k ≠ n, d'.seats[k]? = d.seats[k]?

theorem Alike.symm {e : Audience κ} (h : Alike n d e) : Alike n e d :=
  ⟨h.client.symm, h.length.symm, fun k hk => (h.others k hk).symm⟩

theorem Alike.trans {e f : Audience κ} (h : Alike n d e) (h' : Alike n e f) : Alike n d f :=
  ⟨h'.client.trans h.client, h'.length.trans h.length,
    fun k hk => (h'.others k hk).trans (h.others k hk)⟩

theorem length_react (out : List (Effect (Hearer κ))) (seats : List Seat) :
    (out.foldl react seats).length = seats.length := by
  induction out generalizing seats with
  | nil => rfl
  | cons effect out ih =>
    rw [List.foldl_cons, ih]
    cases effect with
    | ran hearer update => cases hearer <;> simp [react]
    | _ => rfl

theorem alike_setInbox (d : Audience κ) (n : Nat) (rest : Inbox) : Alike n (d.setInbox n rest) d where
  client := rfl
  length := by simp [setInbox]
  others k hk := (getElem?_setInbox_of_ne hk rest).symm

theorem Alike.setInbox {e : Audience κ} (hlike : Alike n d e) (k : Nat) (rest : Inbox) :
    Alike n (d.setInbox k rest) (e.setInbox k rest) where
  client := hlike.client
  length := by simp [Audience.setInbox, hlike.length]
  others j hj := by
    simp only [Audience.setInbox, List.getElem?_modify, hlike.others j hj]

theorem alike_of_read (hturn : Turn d h d' new) (hreads : h.reads? = some n) :
    Alike n d' d ∧ effects new = [] ∧ ∀ k ≠ n, taken k new = [] := by
  cases hturn with
  | event hfits hevent hmove =>
    cases h with
    | take k => cases hevent
    | leave k => cases hevent
    | _ => cases hreads
  | idle hfits hevent hnone => cases hnone.symm.trans hreads
  | took hinbox htake =>
    cases hreads
    exact ⟨alike_setInbox d n _, rfl, fun k hk => taken_of_ne (Ne.symm hk)⟩
  | left hinbox =>
    cases hreads
    exact ⟨alike_setInbox d n _, rfl, fun k _ => rfl⟩

/-- What else can happen does not depend on it. -/
theorem alike_of_turn {e : Audience κ} (hlike : Alike n d e) (hturn : Turn d h d' new)
    (hreads : h.reads? ≠ some n) : ∃ e', Turn e h e' new ∧ Alike n d' e' := by
  cases hturn with
  | @event _ event client out hfits hevent hmove =>
    rw [← hlike.length] at hfits
    rw [← hlike.client] at hmove
    refine ⟨_, .event hfits hevent hmove, rfl, ?_, ?_⟩
    · rw [length_react, length_react, List.length_append, List.length_append, hlike.length]
    · intro k hk
      have hseats : (e.seats ++ h.seat?.toList)[k]? = (d.seats ++ h.seat?.toList)[k]? := by
        rw [List.getElem?_append, List.getElem?_append, hlike.length, hlike.others k hk]
      rw [getElem?_react, getElem?_react, hseats]
  | idle hfits hevent hnone =>
    rw [← hlike.length] at hfits
    exact ⟨e, .idle hfits hevent hnone, hlike⟩
  | @took k inbox rest update hinbox htake =>
    have hk : k ≠ n := fun hk => hreads (congrArg some hk)
    have hinbox' : e.inbox? k = some inbox := by rw [inbox?, hlike.others k hk, ← inbox?, hinbox]
    have hfeeds : e.feeds k = d.feeds k := by rw [feeds, hlike.client, ← feeds]
    rw [← hfeeds] at htake
    exact ⟨_, .took hinbox' htake, hlike.setInbox k rest⟩
  | @left k inbox hinbox =>
    have hk : k ≠ n := fun hk => hreads (congrArg some hk)
    have hinbox' : e.inbox? k = some inbox := by rw [inbox?, hlike.others k hk, ← inbox?, hinbox]
    exact ⟨_, .left hinbox', hlike.setInbox k _⟩

theorem isSome_of_alike {e : Audience κ} (hlike : Alike n d e) (hreads : h.reads? ≠ some n)
    (hstep : (d.step h).isSome = true) : (e.step h).isSome = true := by
  obtain ⟨⟨d', new⟩, hstep⟩ := Option.isSome_iff_exists.1 hstep
  obtain ⟨e', hturn, -⟩ := alike_of_turn hlike (turn_of_step hstep) hreads
  rw [step_of_turn hturn]
  rfl

def besides (n : Nat) (hs : List (Happening κ)) : List (Happening κ) :=
  hs.filter fun h => h.reads? != some n

/-- Without the reading at a seat all else goes on as it does with it. -/
theorem run_besides (hrun : m.run hs = some (d, log)) :
    ∃ e others, m.run (besides n hs) = some (e, others) ∧ Alike n d e ∧
      effects others = effects log ∧ ∀ k ≠ n, taken k others = taken k log := by
  refine run_induction (P := fun hs d log => ∃ e others, m.run (besides n hs) = some (e, others) ∧
    Alike n d e ∧ effects others = effects log ∧ ∀ k ≠ n, taken k others = taken k log) ?_ ?_ hrun
  · exact ⟨m, [], rfl, ⟨rfl, rfl, fun _ _ => rfl⟩, rfl, fun _ _ => rfl⟩
  · rintro hs d log h d' new - ⟨e, others, hothers, hlike, heffects, htaken⟩ hturn
    by_cases hreads : h.reads? = some n
    · obtain ⟨hsame, hquiet, hnone⟩ := alike_of_read hturn hreads
      have hskip : besides n (hs ++ [h]) = besides n hs := by simp [besides, hreads]
      refine ⟨e, others, ?_, ?_, ?_, ?_⟩
      · rw [hskip, hothers]
      · exact hsame.trans hlike
      · rw [effects_append, hquiet, List.append_nil, heffects]
      · intro k hk
        rw [taken_append, hnone k hk, List.append_nil, htaken k hk]
    · obtain ⟨e', hturn', hlike'⟩ := alike_of_turn hlike hturn hreads
      have hkeep : besides n (hs ++ [h]) = besides n hs ++ [h] := by simp [besides, hreads]
      refine ⟨e', others ++ new, ?_, hlike', ?_, ?_⟩
      · rw [hkeep]
        exact run_concat_iff.2 ⟨e, others, new, hothers, step_of_turn hturn', rfl⟩
      · rw [effects_append, effects_append, heffects]
      · intro k hk
        rw [taken_append, taken_append, htaken k hk]

/-- Two runs that differ in the reading at one seat only bring about the same, and the same may happen
after them. -/
theorem reading_apart {hs' : List (Happening κ)} {log' : List (Note κ)}
    (hrun : m.run hs = some (d, log)) (hrun' : m.run hs' = some (d', log'))
    (hbesides : besides n hs' = besides n hs) :
    d'.client = d.client ∧ effects log' = effects log ∧
      (∀ k ≠ n, d'.seats[k]? = d.seats[k]? ∧ taken k log' = taken k log) ∧
      ∀ h, h.reads? ≠ some n → (d'.step h).isSome = (d.step h).isSome := by
  obtain ⟨e, others, hothers, hlike, heffects, htaken⟩ := run_besides (n := n) hrun
  obtain ⟨e', others', hothers', hlike', heffects', htaken'⟩ := run_besides (n := n) hrun'
  rw [hbesides, hothers, Option.some.injEq, Prod.mk.injEq] at hothers'
  obtain ⟨rfl, rfl⟩ := hothers'
  have hsame : Alike n d d' := hlike.trans hlike'.symm
  refine ⟨hsame.client, heffects'.symm.trans heffects, ?_, ?_⟩
  · intro k hk
    exact ⟨hsame.others k hk, (htaken' k hk).symm.trans (htaken k hk)⟩
  · intro h hreads
    rw [Bool.eq_iff_iff]
    exact ⟨isSome_of_alike hsame.symm hreads, isSome_of_alike hsame hreads⟩

theorem inbox?_of_watch {access : Access} {stream : Stream} {downlink : Bool}
    (hpush : access.hasPush = true) (hturn : Turn d (.watch n access stream downlink) d' new) :
    d'.inbox? n = some {} := by
  have hseats : Happening.Seats n stream downlink (.watch n access stream downlink : Happening κ) :=
    ⟨hpush, rfl, rfl, rfl⟩
  cases hturn with
  | @event _ e client out hfits hevent hmove =>
    obtain rfl := Option.some.inj (hevent.symm.trans (event?_of_seats hseats))
    have hnone : heard n out = [] := by
      rw [heard_of_move hmove]
      rfl
    have hn : n = d.seats.length := by simpa [Happening.fits] using hfits
    rw [inbox?, getElem?_react, hnone, hn, Happening.seat?, Option.toList_some,
      List.getElem?_concat_length]
    rfl
  | idle hfits hevent hreads => cases hevent.symm.trans (event?_of_seats hseats)

theorem unfed_of_run {later : List (Happening κ)} (hd : d.Sound) (hn : d.channel? n = some c)
    (hunfed : d.feeds n = false) (hrun : d.run later = some (d', log)) :
    d'.Sound ∧ d'.channel? n = some c ∧ d'.feeds n = false ∧ heard n (effects log) = [] := by
  refine run_induction (P := fun _ d' log => d'.Sound ∧ d'.channel? n = some c ∧
    d'.feeds n = false ∧ heard n (effects log) = []) ⟨hd, hn, hunfed, rfl⟩ ?_ hrun
  rintro later s log h s' new - ⟨hs, hn, hunfed, hheard⟩ hturn
  refine ⟨sound_of_turn hturn hs, channel?_of_turn hturn hn, ?_, ?_⟩
  · rw [← Bool.not_eq_true] at hunfed ⊢
    exact fun hfed => hunfed (feeds_of_turn hs hn hturn hfed)
  · rw [effects_append, heard_append, hheard, heard_of_unfed hs hn hturn hunfed]
    rfl

/-- How a watch and its callback stand after what has happened since the watch began. -/
theorem attends_and_keeps {after : List (Happening κ)} {inbox : Inbox} (hm : m.Sound)
    (hattends : Attends n c [] m []) (hkeeps : Keeps n m ([] : List (Note κ)) inbox [] 0)
    (hrun : m.run after = some (d, log)) :
    d.Sound ∧ Attends n c after d log ∧
      ∃ inbox yielded ends, Keeps n d log inbox yielded ends := by
  refine run_induction (P := fun hs d log => d.Sound ∧ Attends n c hs d log ∧
    ∃ inbox yielded ends, Keeps n d log inbox yielded ends)
    ⟨hm, hattends, inbox, [], 0, hkeeps⟩ ?_ hrun
  rintro hs d log h d' new - ⟨hd, hattends, inbox, yielded, ends, hkeeps⟩ hturn
  exact ⟨sound_of_turn hturn hd, attends_of_turn hd.seated hattends hturn,
    keeps_of_turn hkeeps (feeds_of_turn hd hattends.channel hturn)
      (heard_of_unfed hd hattends.channel hturn) hturn⟩

/-- A watch on a channel, from when it is registered on. Its callback is there until a call is made on
the channel or, the loop having ended, a subscribe to it is declined. What the watch has yielded and
what waits for it are together the updates dispatched on the channel before any such call, in their
order. As long as the callback is there, and somebody has hold of the registry, the watch does not end;
after that it yields what waits, then ends, and gets no more. When it is read, or that it is let go of,
makes no difference to the push client or to anybody at another seat. -/
theorem watch_yields_dispatched {policy : ReconnectPolicy} {before after : List (Happening κ)}
    {access : Access} {stream : Stream} {downlink : Bool} {past : List (Note κ)}
    (hpush : access.hasPush = true) (hc : Channel.ofStream stream.name downlink = c)
    (hbefore : (start policy).run (before ++ [.watch n access stream downlink]) = some (m, past))
    (hrun : m.run after = some (d, log)) :
    (d.client.registry.find? c = some (.seat n) ↔
      after.all (!·.calls c) = true ∧ .declined (.subscribe c) ∉ effects log) ∧
    (.declined (.subscribe c) ∈ effects log → d.client.phase = .ended) ∧
    (d.feeds n = true ↔ (d.client.held = true ∨ d.client.phase ≠ .ended) ∧
      d.client.registry.find? c = some (.seat n)) ∧
    (∃ inbox yielded ends, d.inbox? n = some inbox ∧
      taken n log = yielded.map some ++ List.replicate ends none ∧
      yielded <+: dispatched c (tenure c after) ∧
      (inbox.dropped = false → yielded ++ inbox.waiting = dispatched c (tenure c after)) ∧
      (d.feeds n = true → ends = 0 ∧ ∀ d' new, d.step (.take n) = some (d', new) →
        ∃ update, new = [.took n (some update)]) ∧
      (d.feeds n = false → inbox.dropped = false →
        ∃ d', d.run (List.replicate (inbox.waiting.length + 1) (.take n)) =
          some (d', inbox.waiting.map (fun update => .took n (some update)) ++ [.took n none]))) ∧
    (d.feeds n = false → ∀ later d' log', d.run later = some (d', log') →
      d'.feeds n = false ∧ heard n (effects log') = []) ∧
    (d.step (.leave n)).isSome = true ∧
    ∀ after' d' log', m.run after' = some (d', log') → besides n after' = besides n after →
      d'.client = d.client ∧ effects log' = effects log ∧
      (∀ k ≠ n, d'.seats[k]? = d.seats[k]? ∧ taken k log' = taken k log) ∧
      ∀ h, h.reads? ≠ some n → (d'.step h).isSome = (d.step h).isSome := by
  obtain ⟨b, -, last, -, hwatch, -⟩ := run_concat_iff.1 hbefore
  have hturn := turn_of_step hwatch
  have hseats : Happening.Seats n stream downlink (.watch n access stream downlink : Happening κ) :=
    ⟨hpush, rfl, rfl, rfl⟩
  obtain ⟨hchannel, hfind⟩ := registered_of_seats hseats hturn
  rw [hc] at hchannel hfind
  have hattends : Attends n c [] m [] :=
    ⟨hchannel, by simp [hfind, effects], by simp [effects], rfl⟩
  have hkeeps : Keeps n m ([] : List (Note κ)) {} [] 0 :=
    ⟨inbox?_of_watch hpush hturn, rfl, List.prefix_refl _, fun _ => rfl, fun h => absurd rfl h⟩
  obtain ⟨hd, hattends, inbox, yielded, ends, hkeeps⟩ :=
    attends_and_keeps (sound_of_run hbefore) hattends hkeeps hrun
  have hfeeds := feeds_iff hd.nodup hd.seated hattends.channel
  refine ⟨hattends.registered, hattends.declined, hfeeds, ⟨inbox, yielded, ends, hkeeps.holds,
    hkeeps.taken, ?_, ?_, ?_, ?_⟩, ?_, ?_, ?_⟩
  · rw [← hattends.heard]
    exact hkeeps.heard_first
  · rw [← hattends.heard]
    exact hkeeps.kept
  · intro hfed
    refine ⟨?_, ?_⟩
    · by_contra hends
      simp [(hkeeps.finished hends).1] at hfed
    · intro d' new hstep
      cases turn_of_step hstep with
      | idle hfits hevent hreads => cases hreads
      | event hfits hevent hmove => cases hevent
      | took hinbox htake =>
        obtain ⟨-, ⟨update, rfl, -, -⟩ | ⟨-, hgone, -, -⟩⟩ := take?_cases htake
        · exact ⟨update, rfl⟩
        · simp [hgone] at hfed
  · intro hunfed hdropped
    exact takes_all hkeeps.holds hdropped hunfed
  · intro hunfed later d' log' hlater
    exact (unfed_of_run hd hattends.channel hunfed hlater).2.2
  · rw [step, hkeeps.holds]
    rfl
  · intro after' d' log' hrun' hbesides
    exact reading_apart hrun hrun' hbesides

/-- A watch goes on over a connection that is lost, is replaced by another watch, and is read to its
end. -/
def watched : List (Happening Nat) :=
  [.push (.receive Client.updateOnA), .take 0, .push .lost, .push .elapsed, .push .opened,
    .push .recall, .push (.announce "a" true), .push .serve, .push (.receive Client.updateOnA),
    .push (.receive Client.updateOnA), .watch 1 ⟨true, true⟩ (.named "a") false,
    .push (.receive Client.updateOnA), .take 0, .take 0, .take 0]

theorem watch_yields_dispatched_watched : ∃ m past d log,
    (start {}).run ([.push .start, .push .opened, .push .recall, .push .serve] ++
      [.watch 0 ⟨true, true⟩ (.named "a") false]) = some (m, past) ∧
    m.run watched = some (d, log) ∧ (dispatched "a" (tenure "a" watched)).length = 3 ∧
    taken 0 log = (dispatched "a" (tenure "a" watched)).map some ++ [none] ∧
    d.client.registry.find? "a" ≠ some (.seat 0) ∧ d.feeds 0 = false ∧
    ∀ later d' log', d.run later = some (d', log') → heard 0 (effects log') = [] := by
  obtain ⟨m, past, d, log, hbefore, hrun, hlength, htaken, hunfed⟩ : ∃ m past d log,
      (start {}).run ([.push .start, .push .opened, .push .recall, .push .serve] ++
        [.watch 0 ⟨true, true⟩ (.named "a") false]) = some (m, past) ∧
      m.run watched = some (d, log) ∧ (dispatched "a" (tenure "a" watched)).length = 3 ∧
      taken 0 log = (dispatched "a" (tenure "a" watched)).map some ++ [none] ∧
      d.feeds 0 = false := ⟨_, _, _, _, rfl, rfl, rfl, rfl, rfl⟩
  obtain ⟨hregistered, -, -, -, hover, -⟩ := watch_yields_dispatched rfl rfl hbefore hrun
  refine ⟨m, past, d, log, hbefore, hrun, hlength, htaken, ?_, hunfed, ?_⟩
  · intro hfind
    have hall : watched.all (!·.calls "a") = false := by decide
    exact Bool.false_ne_true (hall.symm.trans (hregistered.1 hfind).1)
  · intro later d' log' hlater
    exact (hover hunfed later d' log' hlater).2

end SeriesClient.Audience
