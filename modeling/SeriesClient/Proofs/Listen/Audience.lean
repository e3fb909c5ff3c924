import SeriesClient.Proofs.Push.Delivery
import SeriesClient.Proofs.Push.Transcript
import SeriesClient.Push.Inbox
import SeriesClient.Stream

/-! Those who listen on streams over one push client. Every subscribe and every watch on a stream takes
a seat of its own, from which a callback is registered; the callback of a watch feeds the inbox that
is at the seat. Streams may be the same or different ones, and between any two of these steps anything
may happen to the push client. -/

namespace SeriesClient

open Push

variable {κ α : Type}

def Exchange.opening? : Exchange κ α → Option (Event κ)
  | .ask (.subscribe c callback) _ => some (.callSubscribe c callback)
  | .ask (.unsubscribe c) _ => some (.callUnsubscribe c)
  | .ask (.pushInsert c points) _ => some (.callInsert c points)
  | _ => none

namespace Stream

theorem opening?_subscribe (access : Access) (s : Stream) (callback : κ) (downlink : Bool) :
    (s.subscribe access callback downlink).opening? =
      if access.hasPush then some (.callSubscribe (Channel.ofStream s.name downlink) callback)
      else none := by
  unfold subscribe
  split_ifs <;> rfl

theorem opening?_watch (access : Access) (s : Stream) (feed : κ) (updates : α) (downlink : Bool) :
    (s.watch access feed updates downlink).opening? =
      if access.hasPush then some (.callSubscribe (Channel.ofStream s.name downlink) feed)
      else none := by
  unfold watch subscribe
  split_ifs <;> rfl

theorem opening?_unsubscribe (access : Access) (s : Stream) (downlink : Bool) :
    (s.unsubscribe access downlink : Exchange κ (Except StreamError Unit)).opening? =
      if access.hasPush then some (.callUnsubscribe (Channel.ofStream s.name downlink))
      else none := by
  unfold unsubscribe
  split_ifs <;> rfl

end Stream

namespace Audience

/-- What is registered for a channel: the callback of a seat, or one that somebody gave to the push
client without a stream. -/
inductive Hearer (κ : Type) where
  | seat (number : Nat)
  | direct (callback : κ)

def Hearer.sits (n : Nat) : Hearer κ → Bool
  | seat m => m == n
  | direct _ => false

structure Seat where
  stream : Stream
  downlink : Bool
  inbox : Option Inbox := none

namespace Seat

def channel (s : Seat) : String := Channel.ofStream s.stream.name s.downlink

def hear (s : Seat) (update : Update) : Seat := { s with inbox := s.inbox.map (·.put update) }

end Seat

/-- What may happen. Seats have numbers, in the order in which they are taken. -/
inductive Happening (κ : Type) where
  | subscribe (seat : Nat) (access : Access) (stream : Stream) (downlink : Bool)
  | watch (seat : Nat) (access : Access) (stream : Stream) (downlink : Bool)
  | unsubscribe (access : Access) (stream : Stream) (downlink : Bool)
  | push (event : Event (Hearer κ))
  /-- Whoever watches from the seat takes what comes next. -/
  | take (seat : Nat)
  /-- Whoever watches from the seat lets go of the inbox. -/
  | leave (seat : Nat)

namespace Happening

def event? : Happening κ → Option (Event (Hearer κ))
  | subscribe n access stream downlink => (stream.subscribe access (.seat n) downlink).opening?
  | watch n access stream downlink => (stream.watch access (.seat n) n downlink).opening?
  | unsubscribe access stream downlink =>
    (stream.unsubscribe access downlink : Exchange (Hearer κ) _).opening?
  | push event => some event
  | take _ | leave _ => none

def seat? : Happening κ → Option Seat
  | subscribe _ _ stream downlink => some { stream, downlink }
  | watch _ _ stream downlink => some { stream, downlink, inbox := some {} }
  | _ => none

def reads? : Happening κ → Option Nat
  | take n | leave n => some n
  | _ => none

/-- The number of a seat that is taken is the next one, and a callback of a seat is registered only
as the seat is taken. -/
def fits (seats : Nat) : Happening κ → Bool
  | subscribe n _ _ _ | watch n _ _ _ => n == seats
  | push (.callSubscribe _ (.seat _)) => false
  | _ => true

end Happening

inductive Note (κ : Type) where
  | pushed (effect : Effect (Hearer κ))
  /-- The watch at the seat yields an update, or its end. -/
  | took (seat : Nat) (update : Option Update)

end Audience

open Audience

structure Audience (κ : Type) where
  client : Client (Hearer κ)
  seats : List Seat := []

namespace Audience

def start (policy : ReconnectPolicy) : Audience κ := { client := Client.connect policy }

def inbox? (d : Audience κ) (n : Nat) : Option Inbox := d.seats[n]?.bind Seat.inbox

def setInbox (d : Audience κ) (n : Nat) (inbox : Inbox) : Audience κ :=
  { d with seats := d.seats.modify n fun seat => { seat with inbox := some inbox } }

/-- Whether the callback of the seat is still there: it is in the registry, and a handle or the
connection loop has hold of that. -/
def feeds (d : Audience κ) (n : Nat) : Bool :=
  (d.client.held || d.client.phase ≠ .ended) && d.client.registry.any (·.2.sits n)

/-- A callback that runs is heard at its seat. -/
def react (seats : List Seat) : Effect (Hearer κ) → List Seat
  | .ran (.seat n) update => seats.modify n (·.hear update)
  | _ => seats

def heed (d : Audience κ) (h : Happening κ) (e : Event (Hearer κ)) :
    Option (Audience κ × List (Note κ)) :=
  (d.client.step e).map fun (client, out) =>
    ({ client, seats := out.foldl react (d.seats ++ h.seat?.toList) }, out.map .pushed)

def take (d : Audience κ) (n : Nat) : Option (Audience κ × List (Note κ)) := do
  let inbox ← d.inbox? n
  let (update, inbox) ← inbox.take? (d.feeds n)
  pure (d.setInbox n inbox, [.took n update])

def step (d : Audience κ) (h : Happening κ) : Option (Audience κ × List (Note κ)) :=
  match h with
  | .take n => d.take n
  | .leave n => (d.inbox? n).map fun inbox => (d.setInbox n inbox.drop, [])
  | .subscribe .. | .watch .. | .unsubscribe .. | .push _ =>
    if h.fits d.seats.length then
      match h.event? with
      | none => some (d, [])
      | some e => d.heed h e
    else none

def run (d : Audience κ) (hs : List (Happening κ)) : Option (Audience κ × List (Note κ)) :=
  runSteps step d hs

inductive Turn (d : Audience κ) : Happening κ → Audience κ → List (Note κ) → Prop where
  | event {h : Happening κ} {e : Event (Hearer κ)} {client : Client (Hearer κ)}
      {out : List (Effect (Hearer κ))} (hfits : h.fits d.seats.length = true)
      (hevent : h.event? = some e) (hmove : d.client.Move e client out) :
      Turn d h ⟨client, out.foldl react (d.seats ++ h.seat?.toList)⟩ (out.map .pushed)
  /-- The stream has no push connection to ask. -/
  | idle {h : Happening κ} (hfits : h.fits d.seats.length = true) (hevent : h.event? = none)
      (hreads : h.reads? = none) : Turn d h d []
  | took {n : Nat} {inbox rest : Inbox} {update : Option Update} (hinbox : d.inbox? n = some inbox)
      (htake : inbox.take? (d.feeds n) = some (update, rest)) :
      Turn d (.take n) (d.setInbox n rest) [.took n update]
  | left {n : Nat} {inbox : Inbox} (hinbox : d.inbox? n = some inbox) :
      Turn d (.leave n) (d.setInbox n inbox.drop) []

variable {d d' : Audience κ} {h : Happening κ} {hs : List (Happening κ)} {new log : List (Note κ)}

theorem turn_of_heed (hreads : h.reads? = none)
    (hstep : (if h.fits d.seats.length then
      match h.event? with
      | none => some (d, [])
      | some e => d.heed h e
    else none) = some (d', new)) : Turn d h d' new := by
  split_ifs at hstep with hfits
  split at hstep
  · next hevent =>
    obtain ⟨rfl, rfl⟩ := by simpa using hstep
    exact .idle hfits hevent hreads
  · next e hevent =>
    simp only [heed, Option.map_eq_some_iff, Prod.exists, Prod.mk.injEq] at hstep
    obtain ⟨client, out, hclient, rfl, rfl⟩ := hstep
    exact .event hfits hevent (Client.move_of_step hclient)

theorem turn_of_step (hstep : d.step h = some (d', new)) : Turn d h d' new := by
  cases h with
  | take n =>
    simp only [step, take, Option.bind_eq_bind, Option.bind_eq_some_iff, Option.pure_def,
      Option.some.injEq, Prod.exists, Prod.mk.injEq] at hstep
    obtain ⟨inbox, hinbox, update, rest, htake, rfl, rfl⟩ := hstep
    exact .took hinbox htake
  | leave n =>
    simp only [step, Option.map_eq_some_iff, Prod.mk.injEq] at hstep
    obtain ⟨inbox, hinbox, rfl, rfl⟩ := hstep
    exact .left hinbox
  | subscribe n access stream downlink => exact turn_of_heed rfl hstep
  | watch n access stream downlink => exact turn_of_heed rfl hstep
  | unsubscribe access stream downlink => exact turn_of_heed rfl hstep
  | push e => exact turn_of_heed rfl hstep

theorem step_of_turn (hturn : Turn d h d' new) : d.step h = some (d', new) := by
  cases hturn with
  | event hfits hevent hmove =>
    cases h with
    | take n => cases hevent
    | leave n => cases hevent
    | _ => simp [step, hfits, hevent, heed, Client.step_of_move hmove]
  | idle hfits hevent hreads =>
    cases h with
    | take n => cases hreads
    | leave n => cases hreads
    | _ => simp [step, hfits, hevent]
  | took hinbox htake => simp [step, take, hinbox, htake]
  | left hinbox => simp [step, hinbox]

theorem run_concat_iff :
    d.run (hs ++ [h]) = some (d', log) ↔
      ∃ m first last, d.run hs = some (m, first) ∧ m.step h = some (d', last) ∧
        log = first ++ last := runSteps_concat_iff

theorem run_induction {begun : Audience κ} {P : List (Happening κ) → Audience κ → List (Note κ) → Prop}
    (nil : P [] begun [])
    (snoc : ∀ {hs d log h d' new}, begun.run hs = some (d, log) → P hs d log → Turn d h d' new →
      P (hs ++ [h]) d' (log ++ new))
    (hrun : begun.run hs = some (d, log)) : P hs d log :=
  runSteps_induction nil (fun hhs ih hstep => snoc hhs ih (turn_of_step hstep)) hrun

def effects (log : List (Note κ)) : List (Effect (Hearer κ)) :=
  log.filterMap fun
    | .pushed effect => some effect
    | .took _ _ => none

def taken (n : Nat) (log : List (Note κ)) : List (Option Update) :=
  log.filterMap fun
    | .took m update => if m = n then some update else none
    | .pushed _ => none

def heard (n : Nat) (out : List (Effect (Hearer κ))) : List Update :=
  (invocations out).filterMap fun i => if i.1.sits n then some i.2 else none

section
variable {n m : Nat} {out : List (Effect (Hearer κ))}

@[simp] theorem effects_append : effects (log ++ new) = effects log ++ effects new :=
  List.filterMap_append

@[simp] theorem effects_map : effects (out.map Note.pushed) = out := by
  rw [effects, List.filterMap_map]
  exact List.filterMap_some

@[simp] theorem taken_append : taken n (log ++ new) = taken n log ++ taken n new :=
  List.filterMap_append

@[simp] theorem taken_map : taken n (out.map Note.pushed) = [] := by
  simp [taken]

@[simp] theorem taken_self (update : Option Update) :
    taken n [(.took n update : Note κ)] = [update] := by
  simp [taken]

theorem taken_of_ne {update : Option Update} (h : m ≠ n) :
    taken n [(.took m update : Note κ)] = [] := by
  simp [taken, h]

theorem heard_append (out later : List (Effect (Hearer κ))) :
    heard n (out ++ later) = heard n out ++ heard n later := by
  rw [heard, invocations_append, List.filterMap_append, ← heard, ← heard]

theorem sits_iff {hearer : Hearer κ} : hearer.sits n = true ↔ hearer = .seat n := by
  cases hearer <;> simp [Hearer.sits]

theorem heard_seat (m n : Nat) (update : Update) :
    heard n [(.ran (.seat m) update : Effect (Hearer κ))] = if m = n then [update] else [] := by
  by_cases hm : m = n <;> simp [heard, invocations, Hearer.sits, hm]

/-- Each seat hears what its own callback is run on. -/
theorem getElem?_react (out : List (Effect (Hearer κ))) (seats : List Seat) (n : Nat) :
    (out.foldl react seats)[n]? = seats[n]?.map fun seat => (heard n out).foldl Seat.hear seat := by
  induction out generalizing seats with
  | nil => simp [heard, invocations]
  | cons effect out ih =>
    rw [List.foldl_cons, ih, ← List.singleton_append (l := out), heard_append]
    cases effect with
    | ran hearer update =>
      cases hearer with
      | seat m =>
        rw [react, heard_seat]
        split_ifs with hm
        · subst hm
          rw [List.getElem?_modify_eq]
          exact Option.map_map _ _ _
        · rw [List.getElem?_modify_ne _ _ hm, List.nil_append]
      | direct callback => rfl
    | _ => rfl

/-- A step of the push client is heard at the seat whose callback it asks for. -/
theorem heard_of_move {s client : Client (Hearer κ)} {e : Event (Hearer κ)}
    (hmove : s.Move e client out) :
    heard n out =
      (e.update?.filter fun u => (s.registry.find? u.channel).any (·.sits n)).toList := by
  rw [heard, Client.invocations_eq_called hmove, Client.called]
  cases e.update? with
  | none => rfl
  | some update =>
    rw [Option.filter_some, Option.bind_some]
    cases s.registry.find? update.channel with
    | none => rfl
    | some hearer => by_cases hn : hearer.sits n = true <;> simp [hn]

theorem mem_heard_of_move {s client : Client (Hearer κ)} {e : Event (Hearer κ)} {update : Update}
    (hmove : s.Move e client out) (h : update ∈ heard n out) :
    e.update? = some update ∧ s.registry.find? update.channel = some (.seat n) := by
  rw [heard_of_move hmove, Option.mem_toList, Option.filter_eq_some_iff, Option.any_eq_true] at h
  obtain ⟨hupdate, hearer, hfind, hsits⟩ := h
  rw [sits_iff] at hsits
  exact ⟨hupdate, hsits ▸ hfind⟩

end

def channel? (d : Audience κ) (n : Nat) : Option String := d.seats[n]?.map Seat.channel

def Seated (d : Audience κ) : Prop :=
  ∀ c n, d.client.registry.find? c = some (.seat n) → d.channel? n = some c

/-- It subscribes or watches from the seat on the stream or its downlink, over the push client. -/
def Happening.Seats (n : Nat) (stream : Stream) (downlink : Bool) : Happening κ → Prop
  | subscribe m access s b | watch m access s b =>
    access.hasPush = true ∧ m = n ∧ s = stream ∧ b = downlink
  | _ => False

/-- The callback of a seat is registered as the seat is taken, on the channel of the seat. -/
theorem channel_of_event {c : String} {n seats : Nat}
    (hevent : h.event? = some (.callSubscribe c (.seat n))) (hfits : h.fits seats = true) :
    n = seats ∧ h.seat?.map Seat.channel = some c := by
  cases h with
  | subscribe m access stream downlink =>
    rw [Happening.event?, Stream.opening?_subscribe, Option.ite_none_right_eq_some] at hevent
    obtain ⟨-, heq⟩ := hevent
    cases heq
    exact ⟨by simpa [Happening.fits] using hfits, rfl⟩
  | watch m access stream downlink =>
    rw [Happening.event?, Stream.opening?_watch, Option.ite_none_right_eq_some] at hevent
    obtain ⟨-, heq⟩ := hevent
    cases heq
    exact ⟨by simpa [Happening.fits] using hfits, rfl⟩
  | unsubscribe access stream downlink =>
    rw [Happening.event?, Stream.opening?_unsubscribe, Option.ite_none_right_eq_some] at hevent
    obtain ⟨-, heq⟩ := hevent
    cases heq
  | push e =>
    obtain rfl : e = .callSubscribe c (.seat n) := Option.some.inj hevent
    cases hfits
  | take _ => cases hevent
  | leave _ => cases hevent

theorem channel_hear (updates : List Update) (seat : Seat) :
    (updates.foldl Seat.hear seat).channel = seat.channel := by
  induction updates generalizing seat with
  | nil => rfl
  | cons update updates ih => exact ih _

theorem channel?_react (out : List (Effect (Hearer κ))) (seats : List Seat) (n : Nat) :
    (out.foldl react seats)[n]?.map Seat.channel = seats[n]?.map Seat.channel := by
  rw [getElem?_react, Option.map_map]
  congr 1
  funext seat
  exact channel_hear _ seat

theorem channel?_setInbox (d : Audience κ) (n m : Nat) (inbox : Inbox) :
    (d.setInbox n inbox).channel? m = d.channel? m := by
  unfold channel? setInbox
  by_cases hm : n = m
  · subst hm
    rw [List.getElem?_modify_eq]
    exact Option.map_map _ _ _
  · rw [List.getElem?_modify_ne _ _ hm]

theorem channel?_of_turn {n : Nat} {c : String} (hturn : Turn d h d' new)
    (hn : d.channel? n = some c) : d'.channel? n = some c := by
  cases hturn with
  | event hfits hevent hmove =>
    obtain ⟨seat, hseat, rfl⟩ := Option.map_eq_some_iff.1 hn
    have hlt : n < d.seats.length := (List.getElem?_eq_some_iff.1 hseat).1
    rw [channel?, channel?_react, List.getElem?_append_left hlt]
    exact hn
  | idle hfits hevent hreads => exact hn
  | took hinbox htake => rw [channel?_setInbox, hn]
  | left hinbox => rw [channel?_setInbox, hn]

theorem channel?_of_event {client : Client (Hearer κ)} {out : List (Effect (Hearer κ))} {n : Nat}
    {c : String} (hevent : h.event? = some (.callSubscribe c (.seat n)))
    (hfits : h.fits d.seats.length = true) :
    (Audience.mk client (out.foldl react (d.seats ++ h.seat?.toList))).channel? n = some c := by
  obtain ⟨rfl, hseat⟩ := channel_of_event hevent hfits
  obtain ⟨seat, hseat, hchannel⟩ := Option.map_eq_some_iff.1 hseat
  rw [channel?, channel?_react, hseat, ← hchannel]
  simp

theorem seated_of_turn (hturn : Turn d h d' new) (hd : d.Seated) : d'.Seated := by
  intro c n hfind
  have hchannel := channel?_of_turn (n := n) (c := c) hturn
  cases hturn with
  | @event _ e client out hfits hevent hmove =>
    by_cases hcall : e.calledOn? = some c
    · -- Whoever is registered by this very call sits where it says.
      rw [Client.find?_of_call hmove hcall] at hfind
      obtain rfl : e = .callSubscribe c (.seat n) := by
        cases e with
        | callSubscribe d k =>
          cases hcall
          cases hfind
          rfl
        | _ => cases hfind
      exact channel?_of_event hevent hfits
    · by_cases hdeclined : .declined (.subscribe c) ∈ out
      · obtain ⟨-, -, -, -, hnone⟩ := Client.find?_of_declined hmove hdeclined
        simp [hnone] at hfind
      · rw [Client.find?_of_quiet hmove hcall hdeclined] at hfind
        exact hchannel (hd c n hfind)
  | idle hfits hevent hreads => exact hd c n hfind
  | took hinbox htake => exact hchannel (hd c n hfind)
  | left hinbox => exact hchannel (hd c n hfind)

theorem event?_of_seats {stream : Stream} {downlink : Bool} {n : Nat}
    (hseats : h.Seats n stream downlink) :
    h.event? = some (.callSubscribe (Channel.ofStream stream.name downlink) (.seat n)) := by
  cases h with
  | subscribe m access s b =>
    obtain ⟨hpush, rfl, rfl, rfl⟩ := hseats
    rw [Happening.event?, Stream.opening?_subscribe, if_pos hpush]
  | watch m access s b =>
    obtain ⟨hpush, rfl, rfl, rfl⟩ := hseats
    rw [Happening.event?, Stream.opening?_watch, if_pos hpush]
  | _ => exact hseats.elim

/-- Whoever takes a seat is registered on its channel. -/
theorem registered_of_seats {stream : Stream} {downlink : Bool} {n : Nat}
    (hseats : h.Seats n stream downlink) (hturn : Turn d h d' new) :
    d'.channel? n = some (Channel.ofStream stream.name downlink) ∧
      d'.client.registry.find? (Channel.ofStream stream.name downlink) = some (.seat n) := by
  have hcalls := event?_of_seats hseats
  cases hturn with
  | event hfits hevent hmove =>
    obtain rfl := Option.some.inj (hevent.symm.trans hcalls)
    exact ⟨channel?_of_event hcalls hfits, Client.find?_of_call hmove rfl⟩
  | idle hfits hevent hreads => cases hevent.symm.trans hcalls
  | took hinbox htake => exact hseats.elim
  | left hinbox => exact hseats.elim

theorem seated_of_run {policy : ReconnectPolicy} (hrun : (start policy).run hs = some (d, log)) :
    d.Seated := by
  refine run_induction (P := fun _ d _ => d.Seated) ?_ ?_ hrun
  · intro c n hfind
    cases hfind
  · intro hs d log h d' new _ hd hturn
    exact seated_of_turn hturn hd

theorem client_of_turn (hturn : Turn d h d' new) :
    d.client.run h.event?.toList = some (d'.client, effects new) := by
  cases hturn with
  | event hfits hevent hmove =>
    rw [hevent, effects_map]
    exact Client.run_singleton_iff.2 hmove
  | idle hfits hevent hreads =>
    rw [hevent]
    rfl
  | took hinbox htake => rfl
  | left hinbox => rfl

/-- The push client goes its way as if nobody listened. -/
theorem client_of_run {begun : Audience κ} (hrun : begun.run hs = some (d, log)) :
    begun.client.run (hs.filterMap Happening.event?) = some (d.client, effects log) := by
  refine run_induction (P := fun hs d log =>
    begun.client.run (hs.filterMap Happening.event?) = some (d.client, effects log)) rfl ?_ hrun
  intro hs d log h d' new _ ih hturn
  rw [List.filterMap_append, effects_append]
  refine Client.run_append_iff.2 ⟨_, _, _, ih, ?_, rfl⟩
  have hsingle : [h].filterMap Happening.event? = h.event?.toList := by
    cases hevent : h.event? <;> simp [hevent]
  rw [hsingle]
  exact client_of_turn hturn

theorem reachable_nodup {policy : ReconnectPolicy} (hrun : (start policy).run hs = some (d, log)) :
    d.client.registry.channels.Nodup :=
  Client.nodup_of_run (client_of_run hrun)

end Audience
end SeriesClient
