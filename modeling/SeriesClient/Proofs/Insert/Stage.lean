import SeriesClient.Proofs.Insert.Desk

/-! How far one insert can have come, and what has then been noted of it. It asks the push client or
not, falls back on one request when it was told no, and ends. -/

namespace SeriesClient

open Push

variable {κ : Type}

namespace Insertion

variable {w : Insertion κ} {i : Nat} {log new : List (Note κ)} {out : List (Effect κ)}

def call (w : Insertion κ) : Call := w.stream.insertCall w.points w.restamp

def order (w : Insertion κ) : Stream × List Datapoint × Bool := (w.stream, w.points, w.restamp)

def parcel (w : Insertion κ) : Parcel := (w.stream.name, w.points)

/-- Hearing changes nothing but how far the insert has come. -/
theorem hear_eq (w : Insertion κ) (out : List (Effect κ)) :
    ∃ talk, w.hear out = { w with talk } := by
  unfold hear
  split
  · split
    · exact ⟨_, rfl⟩
    · exact ⟨_, rfl⟩
  · exact ⟨_, rfl⟩

@[simp] theorem hear_ticket : (w.hear out).ticket = w.ticket := by
  obtain ⟨talk, h⟩ := hear_eq w out
  rw [h]

@[simp] theorem hear_order : (w.hear out).order = w.order := by
  obtain ⟨talk, h⟩ := hear_eq w out
  rw [h]
  rfl

@[simp] theorem hear_parcel : (w.hear out).parcel = w.parcel := by
  obtain ⟨talk, h⟩ := hear_eq w out
  rw [h]
  rfl

def afterPush (w : Insertion κ) (inserted : Bool) : Exchange κ Outcome :=
  if inserted then .done (.ok ()) else w.stream.insertOverHttp w.points w.restamp

def afterReply (answer : Except StreamError Json) : Exchange κ Outcome :=
  .done (answer.map fun _ => ())

/-- What the notes say of the insert: how the push client answered, what was requested and replied. -/
structure Reads (w : Insertion κ) (i : Nat) (log : List (Note κ)) (told : List Bool)
    (calls : List Call) (answered : List (Except StreamError Json)) : Prop where
  told : ∀ t, w.ticket = some t → answers t (pushed log) = told
  calls : requests i log = calls
  answered : replies i log = answered

/-- How far an insert can have come, with what has then been noted of it. -/
inductive Stage (w : Insertion κ) (i : Nat) (log : List (Note κ)) : Prop where
  | calling (hticket : w.ticket = none)
      (htalk : w.talk = .speaking (.ask (.pushInsert w.stream.name w.points) w.afterPush))
      (hreads : w.Reads i log [] [] [])
  | awaiting {t : Nat} (hticket : w.ticket = some t) (htalk : w.talk = .awaiting t w.afterPush)
      (hreads : w.Reads i log [] [] [])
  | inserted {t : Nat} (hticket : w.ticket = some t) (hends : w.Ends (.ok ()))
      (hreads : w.Reads i log [true] [] [])
  | falling (htalk : w.talk = .speaking (w.stream.insertOverHttp w.points w.restamp))
      (hreads : w.Reads i log [false] [] [])
  | requested (htalk : w.talk = .requested afterReply) (hreads : w.Reads i log [false] [w.call] [])
  | written {answer : Except StreamError Json} (hends : w.Ends (answer.map fun _ => ()))
      (hreads : w.Reads i log [false] [w.call] [answer])

theorem insertOverHttp_eq :
    w.stream.insertOverHttp w.points w.restamp =
      (.ask (.api w.call) afterReply : Exchange κ Outcome) := rfl

theorem stage_begin {access : Access} {stream : Stream} {points : List Datapoint} {restamp : Bool}
    (hrequests : requests i log = []) (hreplies : replies i log = []) :
    (begin access stream points restamp).Stage i log := by
  by_cases hpush : (access.pushInserts && access.hasPush) = true
  · refine .calling rfl ?_ ⟨nofun, hrequests, hreplies⟩
    simp only [begin, Stream.insertMany, if_pos hpush]
    rfl
  · refine .falling ?_ ⟨nofun, hrequests, hreplies⟩
    simp only [begin, Stream.insertMany, if_neg hpush]

theorem Reads.append {told told' : List Bool} {calls calls' : List Call}
    {answered answered' : List (Except StreamError Json)} (h : w.Reads i log told calls answered)
    (hnew : w.Reads i new told' calls' answered') :
    w.Reads i (log ++ new) (told ++ told') (calls ++ calls') (answered ++ answered') where
  told t ht := by rw [pushed_append, answers_append, h.told t ht, hnew.told t ht]
  calls := by rw [requests_append, h.calls, hnew.calls]
  answered := by rw [replies_append, h.answered, hnew.answered]

theorem Reads.retalk {told : List Bool} {calls : List Call}
    {answered : List (Except StreamError Json)} {talk : Talk κ}
    (h : w.Reads i log told calls answered) : Reads { w with talk } i log told calls answered :=
  ⟨h.told, h.calls, h.answered⟩

theorem Stage.append (h : w.Stage i log) (hnew : w.Reads i new [] [] []) :
    w.Stage i (log ++ new) := by
  cases h with
  | calling hticket htalk hreads => exact .calling hticket htalk (hreads.append hnew)
  | awaiting hticket htalk hreads => exact .awaiting hticket htalk (hreads.append hnew)
  | inserted hticket hends hreads => exact .inserted hticket hends (hreads.append hnew)
  | falling htalk hreads => exact .falling htalk (hreads.append hnew)
  | requested htalk hreads => exact .requested htalk (hreads.append hnew)
  | written hends hreads => exact .written hends (hreads.append hnew)

/-- With these effects the insert has been answered once at most. -/
def Settles (w : Insertion κ) (log : List (Note κ)) (out : List (Effect κ)) : Prop :=
  ∀ t, w.ticket = some t → answers t (pushed log ++ out) = [] ∨
    ∃ inserted, answers t (pushed log ++ out) = [inserted]

theorem Reads.silent {inserted : Bool} {calls : List Call}
    {answered : List (Except StreamError Json)} (h : w.Reads i log [inserted] calls answered)
    (hsettles : w.Settles log out) (t : Nat) (ht : w.ticket = some t) : answers t out = [] := by
  have hsettled := hsettles t ht
  simp only [answers_append, h.told t ht] at hsettled
  rcases hsettled with hnone | ⟨_, hone⟩
  · cases hnone
  · exact (List.cons.inj hone).2

theorem hear_of_answers {t : Nat} {next : Bool → Exchange κ Outcome} {inserted : Bool}
    (htalk : w.talk = .awaiting t next) (h : answers t out = [inserted]) :
    w.hear out = { w with talk := .speaking (next inserted) } := by
  simp [hear, htalk, h]

theorem hear_of_silent (h : ∀ t next, w.talk = .awaiting t next → answers t out = []) :
    w.hear out = w := by
  unfold hear
  split
  · next t next htalk => rw [h t next htalk]
  · rfl

theorem hear_of_ends {outcome : Outcome} (hends : w.Ends outcome) : w.hear out = w :=
  hear_of_silent fun _ _ htalk => by cases htalk.symm.trans hends

theorem Stage.ticket_of_awaiting {t : Nat} {next : Bool → Exchange κ Outcome} (h : w.Stage i log)
    (htalk : w.talk = .awaiting t next) : w.ticket = some t := by
  cases h with
  | awaiting hticket hawaiting hreads =>
    cases htalk.symm.trans hawaiting
    exact hticket
  | calling hticket hcalling hreads => cases htalk.symm.trans hcalling
  | inserted hticket hends hreads => cases htalk.symm.trans hends
  | falling hfalling hreads => cases htalk.symm.trans hfalling
  | requested hrequested hreads => cases htalk.symm.trans hrequested
  | written hends hreads => cases htalk.symm.trans hends

theorem Stage.hear_silent (h : w.Stage i log)
    (hsilent : ∀ t, w.ticket = some t → answers t out = []) :
    (w.hear out).Stage i (log ++ out.map .pushed) := by
  rw [hear_of_silent fun t next htalk => hsilent t (h.ticket_of_awaiting htalk)]
  exact h.append ⟨by simpa using hsilent, requests_map, replies_map⟩

theorem Stage.hear (h : w.Stage i log) (hsettles : w.Settles log out) :
    (w.hear out).Stage i (log ++ out.map .pushed) := by
  cases h with
  | calling hticket htalk hreads =>
    exact (Stage.calling hticket htalk hreads).hear_silent (by simp [hticket])
  | @awaiting t hticket htalk hreads =>
    have hsettled := hsettles t hticket
    rw [answers_append, hreads.told t hticket, List.nil_append] at hsettled
    rcases hsettled with hnone | ⟨inserted, hone⟩
    · refine (Stage.awaiting hticket htalk hreads).hear_silent fun t' ht' => ?_
      obtain rfl := Option.some.inj (hticket.symm.trans ht')
      exact hnone
    · have htold : w.Reads i (out.map .pushed) [inserted] [] [] := by
        refine ⟨fun t' ht' => ?_, requests_map, replies_map⟩
        obtain rfl := Option.some.inj (hticket.symm.trans ht')
        rw [pushed_map, hone]
      rw [hear_of_answers htalk hone]
      cases inserted with
      | true => exact .inserted hticket rfl (hreads.append htold).retalk
      | false => exact .falling rfl (hreads.append htold).retalk
  -- From here on the insert has had its answer, and there is no second one.
  | inserted hticket hends hreads =>
    exact (Stage.inserted hticket hends hreads).hear_silent (hreads.silent hsettles)
  | falling htalk hreads => exact (Stage.falling htalk hreads).hear_silent (hreads.silent hsettles)
  | requested htalk hreads =>
    exact (Stage.requested htalk hreads).hear_silent (hreads.silent hsettles)
  | written hends hreads => exact (Stage.written hends hreads).hear_silent (hreads.silent hsettles)

/-- What an insert may ask the API for. -/
theorem Stage.ask_api {call : Call} {next : Except StreamError Json → Exchange κ Outcome}
    (h : w.Stage i log) (htalk : w.talk = .speaking (.ask (.api call) next)) :
    Insertion.Stage { w with talk := .requested next } i (log ++ [.requested i call]) := by
  cases h with
  | falling hfalling hreads =>
    rw [htalk, insertOverHttp_eq] at hfalling
    cases hfalling
    have hasked : w.Reads i [.requested i w.call] [] [w.call] [] :=
      ⟨fun _ _ => rfl, requests_requested _, rfl⟩
    exact .requested rfl (hreads.append hasked).retalk
  | calling hticket hcalling hreads => cases htalk.symm.trans hcalling
  | awaiting hticket hawaiting hreads => cases htalk.symm.trans hawaiting
  | inserted hticket hends hreads => cases htalk.symm.trans hends
  | requested hrequested hreads => cases htalk.symm.trans hrequested
  | written hends hreads => cases htalk.symm.trans hends

theorem Stage.ask_push {channel : String} {points : List Datapoint}
    {next : Bool → Exchange κ Outcome} (h : w.Stage i log)
    (htalk : w.talk = .speaking (.ask (.pushInsert channel points) next)) :
    w.ticket = none ∧ (channel, points) = w.parcel ∧ next = w.afterPush ∧
      w.Reads i log [] [] [] := by
  cases h with
  | calling hticket hcalling hreads =>
    cases htalk.symm.trans hcalling
    exact ⟨hticket, rfl, rfl, hreads⟩
  | awaiting hticket hawaiting hreads => cases htalk.symm.trans hawaiting
  | inserted hticket hends hreads => cases htalk.symm.trans hends
  | falling hfalling hreads => cases htalk.symm.trans hfalling
  | requested hrequested hreads => cases htalk.symm.trans hrequested
  | written hends hreads => cases htalk.symm.trans hends

theorem Stage.reply {answer : Except StreamError Json}
    {next : Except StreamError Json → Exchange κ Outcome} (h : w.Stage i log)
    (htalk : w.talk = .requested next) :
    Insertion.Stage { w with talk := .speaking (next answer) } i (log ++ [.replied i answer]) := by
  cases h with
  | requested hrequested hreads =>
    cases htalk.symm.trans hrequested
    have hreplied : w.Reads i [.replied i answer] [] [] [answer] :=
      ⟨fun _ _ => rfl, rfl, replies_replied answer⟩
    exact .written rfl (hreads.append hreplied).retalk
  | calling hticket hcalling hreads => cases htalk.symm.trans hcalling
  | awaiting hticket hawaiting hreads => cases htalk.symm.trans hawaiting
  | inserted hticket hends hreads => cases htalk.symm.trans hends
  | falling hfalling hreads => cases htalk.symm.trans hfalling
  | written hends hreads => cases htalk.symm.trans hends

theorem Stage.ends {outcome : Outcome} (h : w.Stage i log) (hends : w.Ends outcome) :
    (∃ t, w.ticket = some t ∧ w.Reads i log [true] [] [] ∧ outcome = .ok ()) ∨
      ∃ answer, w.Reads i log [false] [w.call] [answer] ∧ outcome = answer.map fun _ => () := by
  cases h with
  | calling hticket hcalling hreads => cases hends.symm.trans hcalling
  | awaiting hticket hawaiting hreads => cases hends.symm.trans hawaiting
  | @inserted t hticket hok hreads =>
    cases hends.symm.trans hok
    exact Or.inl ⟨t, hticket, hreads, rfl⟩
  | falling hfalling hreads => cases hends.symm.trans hfalling
  | requested hrequested hreads => cases hends.symm.trans hrequested
  | @written answer hanswer hreads =>
    cases hends.symm.trans hanswer
    exact Or.inr ⟨answer, hreads, rfl⟩

end Insertion

end SeriesClient
