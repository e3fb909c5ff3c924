import SeriesClient.Proofs.Push.Ticket
import SeriesClient.Stream

/-! Inserts of many callers over one push client. Each insert goes on by itself: it asks the push
client to take its points, or the API, and waits for the reply; between any two of its steps others
may take theirs, and anything may happen to the push client. -/

namespace SeriesClient

open Push

abbrev Outcome := Except StreamError Unit

/-- How far an insert has come. -/
inductive Talk (κ : Type) where
  /-- It is about to ask, or has come to its end. -/
  | speaking (rest : Exchange κ Outcome)
  /-- The push client has the points. -/
  | awaiting (ticket : Nat) (next : Bool → Exchange κ Outcome)
  | requested (next : Except StreamError Json → Exchange κ Outcome)

structure Insertion (κ : Type) where
  stream : Stream
  points : List Datapoint
  restamp : Bool
  /-- The ticket it has at the push client, if it went there. -/
  ticket : Option Nat := none
  talk : Talk κ

structure Desk (κ : Type) where
  client : Client κ
  inserts : List (Insertion κ) := []

inductive Occurrence (κ : Type) where
  | begin (access : Access) (stream : Stream) (points : List Datapoint) (restamp : Bool)
  /-- The insert with this number asks what it is about to ask. -/
  | ask (index : Nat)
  /-- The API replies to the insert with this number. -/
  | reply (index : Nat) (answer : Except StreamError Json)
  | push (event : Event κ)

inductive Note (κ : Type) where
  | pushed (effect : Effect κ)
  | requested (index : Nat) (call : Call)
  | replied (index : Nat) (answer : Except StreamError Json)

variable {κ : Type}

namespace Insertion

def begin (access : Access) (stream : Stream) (points : List Datapoint) (restamp : Bool) :
    Insertion κ where
  stream
  points
  restamp
  talk := .speaking (stream.insertMany access points restamp)

def hear (out : List (Effect κ)) (w : Insertion κ) : Insertion κ :=
  match w.talk with
  | .awaiting ticket next =>
    match answers ticket out with
    | [] => w
    | inserted :: _ => { w with talk := .speaking (next inserted) }
  | _ => w

def Ends (w : Insertion κ) (outcome : Outcome) : Prop := w.talk = .speaking (.done outcome)

end Insertion

namespace Desk

def openWith (policy : ReconnectPolicy) : Desk κ := { client := .connect policy }

def put (d : Desk κ) (index : Nat) (w : Insertion κ) : Desk κ :=
  { d with inserts := d.inserts.set index w }

/-- Something happens to the push client, and those it answers hear of it. -/
def push (d : Desk κ) (e : Event κ) : Option (Desk κ × List (Note κ)) :=
  (d.client.step e).map fun (client, out) =>
    ({ client, inserts := d.inserts.map (·.hear out) }, out.map .pushed)

def ask (d : Desk κ) (index : Nat) (w : Insertion κ) : Option (Desk κ × List (Note κ)) :=
  match w.talk with
  | .speaking (.ask (.pushInsert channel points) next) =>
    let ticket := d.client.tickets
    (d.put index { w with ticket := some ticket, talk := .awaiting ticket next }).push
      (.callInsert channel points)
  | .speaking (.ask (.api call) next) =>
    some (d.put index { w with talk := .requested next }, [.requested index call])
  | _ => none

def step (d : Desk κ) : Occurrence κ → Option (Desk κ × List (Note κ))
  | .begin access stream points restamp =>
    some ({ d with inserts := d.inserts ++ [.begin access stream points restamp] }, [])
  | .ask index =>
    match d.inserts[index]? with
    | some w => d.ask index w
    | none => none
  | .reply index answer =>
    match d.inserts[index]? with
    | some w =>
      match w.talk with
      | .requested next =>
        some (d.put index { w with talk := .speaking (next answer) }, [.replied index answer])
      | _ => none
    | none => none
  | .push e => d.push e

def run (d : Desk κ) (os : List (Occurrence κ)) : Option (Desk κ × List (Note κ)) :=
  runSteps step d os

inductive Turn (d : Desk κ) : Occurrence κ → Desk κ → List (Note κ) → Prop where
  | begin {access : Access} {stream : Stream} {points : List Datapoint} {restamp : Bool} :
      Turn d (.begin access stream points restamp)
        { d with inserts := d.inserts ++ [.begin access stream points restamp] } []
  | call {i : Nat} {w : Insertion κ} {channel : String} {points : List Datapoint}
      {next : Bool → Exchange κ Outcome} {client : Client κ} {out : List (Effect κ)}
      (hw : d.inserts[i]? = some w)
      (htalk : w.talk = .speaking (.ask (.pushInsert channel points) next))
      (hmove : d.client.Move (.callInsert channel points) client out) :
      Turn d (.ask i)
        { client
          inserts := (d.inserts.set i { w with
            ticket := some d.client.tickets
            talk := .awaiting d.client.tickets next }).map (·.hear out) }
        (out.map .pushed)
  | request {i : Nat} {w : Insertion κ} {call : Call}
      {next : Except StreamError Json → Exchange κ Outcome} (hw : d.inserts[i]? = some w)
      (htalk : w.talk = .speaking (.ask (.api call) next)) :
      Turn d (.ask i) (d.put i { w with talk := .requested next }) [.requested i call]
  | reply {i : Nat} {w : Insertion κ} {answer : Except StreamError Json}
      {next : Except StreamError Json → Exchange κ Outcome} (hw : d.inserts[i]? = some w)
      (htalk : w.talk = .requested next) :
      Turn d (.reply i answer) (d.put i { w with talk := .speaking (next answer) })
        [.replied i answer]
  | push {e : Event κ} {client : Client κ} {out : List (Effect κ)}
      (hmove : d.client.Move e client out) :
      Turn d (.push e) { client, inserts := d.inserts.map (·.hear out) } (out.map .pushed)

variable {d d' : Desk κ} {o : Occurrence κ} {new : List (Note κ)}

theorem turn_of_step (h : d.step o = some (d', new)) : Turn d o d' new := by
  cases o with
  | begin access stream points restamp =>
    obtain ⟨rfl, rfl⟩ := by simpa [step] using h
    exact .begin
  | ask i =>
    simp only [step] at h
    split at h
    · next w hw =>
      unfold ask at h
      split at h
      · next channel points next htalk =>
        simp only [push, Option.map_eq_some_iff, Prod.exists, Prod.mk.injEq] at h
        obtain ⟨client, out, hstep, rfl, rfl⟩ := h
        exact .call hw htalk (Client.move_of_step hstep)
      · next call next htalk =>
        obtain ⟨rfl, rfl⟩ := by simpa using h
        exact .request hw htalk
      · cases h
    · cases h
  | reply i answer =>
    simp only [step] at h
    split at h
    · next w hw =>
      split at h
      · next next htalk =>
        obtain ⟨rfl, rfl⟩ := by simpa using h
        exact .reply hw htalk
      · cases h
    · cases h
  | push e =>
    simp only [step, push, Option.map_eq_some_iff, Prod.exists, Prod.mk.injEq] at h
    obtain ⟨client, out, hstep, rfl, rfl⟩ := h
    exact .push (Client.move_of_step hstep)

theorem step_of_turn (h : Turn d o d' new) : d.step o = some (d', new) := by
  cases h with
  | begin => rfl
  | call hw htalk hmove => simp [step, hw, ask, htalk, push, put, Client.step_of_move hmove]
  | request hw htalk => simp [step, hw, ask, htalk]
  | reply hw htalk => simp [step, hw, htalk]
  | push hmove => simp [step, push, Client.step_of_move hmove]

theorem inserts_hear {inserts : List (Insertion κ)} {out : List (Effect κ)} {w : Insertion κ}
    {j : Nat} (h : (inserts.map (·.hear out))[j]? = some w) :
    ∃ x, inserts[j]? = some x ∧ x.hear out = w :=
  Option.map_eq_some_iff.1 (List.getElem?_map.symm.trans h)

theorem inserts_put {i j : Nat} {w x : Insertion κ} (h : (d.put i w).inserts[j]? = some x) :
    j = i ∧ x = w ∨ j ≠ i ∧ d.inserts[j]? = some x := by
  simp only [put, List.getElem?_set] at h
  split_ifs at h with hij hi
  · exact Or.inl ⟨hij.symm, (Option.some.inj h).symm⟩
  · exact Or.inr ⟨Ne.symm hij, h⟩

end Desk

def Occurrence.begun? : Occurrence κ → Option (Stream × List Datapoint × Bool)
  | .begin _ stream points restamp => some (stream, points, restamp)
  | _ => none

def pushed (log : List (Note κ)) : List (Effect κ) :=
  log.filterMap fun
    | .pushed effect => some effect
    | _ => none

def requests (index : Nat) (log : List (Note κ)) : List Call :=
  log.filterMap fun
    | .requested i call => if i = index then some call else none
    | _ => none

def replies (index : Nat) (log : List (Note κ)) : List (Except StreamError Json) :=
  log.filterMap fun
    | .replied i answer => if i = index then some answer else none
    | _ => none

inductive Write where
  | frame (channel : String) (points : List Datapoint)
  | request (call : Call)

/-- What the insert with this number and this ticket wrote. -/
def writes (index : Nat) (ticket : Option Nat) (log : List (Note κ)) : List Write :=
  log.filterMap fun
    | .pushed (.forwarded t channel points) =>
      if ticket = some t then some (.frame channel points) else none
    | .requested i call => if i = index then some (.request call) else none
    | _ => none

section
variable {i : Nat} {t : Nat} {log new : List (Note κ)} {out : List (Effect κ)}

@[simp] theorem pushed_append : pushed (log ++ new) = pushed log ++ pushed new :=
  List.filterMap_append

@[simp] theorem requests_append : requests i (log ++ new) = requests i log ++ requests i new :=
  List.filterMap_append

@[simp] theorem replies_append : replies i (log ++ new) = replies i log ++ replies i new :=
  List.filterMap_append

theorem writes_append {ticket : Option Nat} :
    writes i ticket (log ++ new) = writes i ticket log ++ writes i ticket new :=
  List.filterMap_append

@[simp] theorem pushed_map : pushed (out.map Note.pushed) = out := by
  rw [pushed, List.filterMap_map]
  exact List.filterMap_some

@[simp] theorem requests_map : requests i (out.map Note.pushed) = [] := by
  simp [requests]

@[simp] theorem replies_map : replies i (out.map Note.pushed) = [] := by
  simp [replies]

@[simp] theorem requests_requested (call : Call) :
    requests i [(.requested i call : Note κ)] = [call] := by
  simp [requests]

@[simp] theorem replies_replied (answer : Except StreamError Json) :
    replies i [(.replied i answer : Note κ)] = [answer] := by
  simp [replies]

theorem requests_of_ne {j : Nat} {call : Call} (h : j ≠ i) :
    requests j [(.requested i call : Note κ)] = [] := by
  simp [requests, Ne.symm h]

theorem replies_of_ne {j : Nat} {answer : Except StreamError Json} (h : j ≠ i) :
    replies j [(.replied i answer : Note κ)] = [] := by
  simp [replies, Ne.symm h]

theorem writes_of_no_request (h : requests i log = []) :
    writes i (some t) log = (frames t (pushed log)).map fun p => .frame p.1 p.2 := by
  induction log with
  | nil => rfl
  | cons note log ih =>
    cases note with
    | pushed effect =>
      have ih := ih h
      cases effect with
      | forwarded ticket channel points =>
        by_cases ht : ticket = t
        · simpa [writes, pushed, frames, ht] using ih
        · simpa [writes, pushed, frames, ht, Ne.symm ht] using ih
      | _ => exact ih
    | requested j call =>
      by_cases hj : j = i
      · simp [requests, hj] at h
      · have ih := ih (by simpa [requests, hj] using h)
        simpa [writes, pushed, hj] using ih
    | replied j answer => exact ih h

theorem writes_of_no_frame {ticket : Option Nat}
    (h : ∀ t, ticket = some t → frames t (pushed log) = []) :
    writes i ticket log = (requests i log).map .request := by
  induction log with
  | nil => rfl
  | cons note log ih =>
    cases note with
    | pushed effect =>
      cases effect with
      | forwarded t channel points =>
        have hother : ticket ≠ some t := fun ht => by simpa [pushed, frames] using h t ht
        have ih := ih fun t' ht' => by
          have hne : t ≠ t' := fun heq => hother (heq ▸ ht')
          simpa [pushed, frames, hne] using h t' ht'
        simpa [writes, requests, hother] using ih
      | _ => exact ih h
    | requested j call =>
      have ih := ih h
      by_cases hj : j = i
      · simpa [writes, requests, hj] using ih
      · simpa [writes, requests, hj] using ih
    | replied j answer => exact ih h

end

end SeriesClient
