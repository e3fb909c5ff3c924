import SeriesClient.Proofs.Insert.OneWrite
import SeriesClient.Proofs.Handle.Conduct

/-! Inserts of a single value. Such an insert goes the way of all inserts, so a push connection that
takes inserts is asked first. The value is put over HTTP, in a record by itself, just if the push
connection does not take it; if it does, nothing is put. -/

namespace SeriesClient

open Push

variable {κ : Type}

namespace Stream

/-- The request that puts a value by itself, for the server to stamp. -/
def putAlone (s : Stream) (value : Json) : Call :=
  .put (s.name ++ "/data") (.array [.object [("d", value.normalize)]])

/-- All that was done is that the value was put by itself: there was that request and no other, and the
push connection has taken nothing. -/
structure OnlyPut (s : Stream) (value : Json) (said : List (Exchanged κ)) : Prop where
  requested : requested said = [s.putAlone value]
  untaken : ∀ channel points, ⟨.pushInsert channel points, true⟩ ∉ said

/-- Whether the push connection is asked before a request is made. -/
def AsksPush (access : Access) : Prop := access.pushInserts = true ∧ access.hasPush = true

instance (access : Access) : Decidable (AsksPush access) := inferInstanceAs (Decidable (_ ∧ _))

variable {access : Access} {s : Stream} {value : Json} {replies : Replies κ}

theorem insertCall_unstamped (s : Stream) (value : Json) :
    s.insertCall [.unstamped value] true = s.putAlone value := by
  have hbody : insertBody [.unstamped value] = .array [.object [("d", value.normalize)]] := by
    simp [insertBody, Datapoint.listToJson, Datapoint.toJson, Datapoint.unstamped, Json.normalize,
      Json.normalizeItems, Json.normalizeMembers, Json.sortMembers, Json.put, Json.normalize_normalize]
  rw [insertCall, if_pos rfl, hbody]
  rfl

theorem insertOverHttp_unstamped (s : Stream) (value : Json) :
    (s.insertOverHttp [.unstamped value] true : Exchange κ _) =
      (Exchange.api (s.putAlone value)).map (·.map fun _ => ()) := by
  rw [insertOverHttp, insertCall_unstamped]

theorem hold_insert_unasked (h : ¬ AsksPush access) :
    (s.insert access value).hold replies =
      ([⟨.api (s.putAlone value), replies 0 (.api (s.putAlone value))⟩],
        (replies 0 (.api (s.putAlone value))).map fun _ => ()) := by
  rw [insert, insertMany, if_neg (by simpa [AsksPush] using h), insertOverHttp_unstamped,
    Exchange.hold_map, Exchange.hold_api]

/-- The push connection is asked, and its answer settles whether there is a request. -/
theorem hold_insert_asked (h : AsksPush access) :
    (s.insert access value).hold replies =
      let taken : Bool := replies 0 (.pushInsert s.name [.unstamped value])
      if taken then ([⟨.pushInsert s.name [.unstamped value], true⟩], .ok ())
      else ([⟨.pushInsert s.name [.unstamped value], false⟩,
          ⟨.api (s.putAlone value), replies 1 (.api (s.putAlone value))⟩],
        (replies 1 (.api (s.putAlone value))).map fun _ => ()) := by
  rw [insert, insertMany, if_pos (by simpa [AsksPush] using h), insertOverHttp_unstamped]
  simp only [Exchange.hold]
  cases (replies 0 (.pushInsert s.name [.unstamped value]) : Bool) <;> rfl

theorem onlyPut_unasked (h : ¬ AsksPush access) :
    OnlyPut s value ((s.insert access value).hold replies).1 := by
  rw [hold_insert_unasked h]
  refine ⟨rfl, fun channel points hmem => ?_⟩
  cases List.mem_singleton.1 hmem

theorem onlyPut_declined (h : AsksPush access)
    (hreply : (replies 0 (.pushInsert s.name [.unstamped value]) : Bool) = false) :
    OnlyPut s value ((s.insert access value).hold replies).1 := by
  rw [hold_insert_asked h]
  simp only [hreply, Bool.false_eq_true, if_false]
  refine ⟨rfl, fun channel points hmem => ?_⟩
  rcases List.mem_cons.1 hmem with hfirst | hsecond
  · cases hfirst
  · cases List.mem_singleton.1 hsecond

theorem hold_insert_taken (h : AsksPush access)
    (hreply : (replies 0 (.pushInsert s.name [.unstamped value]) : Bool) = true) :
    (s.insert access value).hold replies =
      ([⟨.pushInsert s.name [.unstamped value], true⟩], .ok ()) := by
  rw [hold_insert_asked h]
  simp only [hreply, if_true]

theorem not_onlyPut_taken : ¬ OnlyPut s value
    [(⟨.pushInsert s.name [.unstamped value], true⟩ : Exchanged κ)] := by
  intro h
  cases h.requested

theorem onlyPut_iff : OnlyPut s value ((s.insert access value).hold replies).1 ↔
    ¬ AsksPush access ∨ (replies 0 (.pushInsert s.name [.unstamped value]) : Bool) = false := by
  by_cases h : AsksPush access
  · cases hreply : (replies 0 (.pushInsert s.name [.unstamped value]) : Bool) with
    | true =>
      rw [hold_insert_taken h hreply]
      simp [not_onlyPut_taken, h]
    | false => exact iff_of_true (onlyPut_declined h hreply) (Or.inr rfl)
  · exact iff_of_true (onlyPut_unasked h) (Or.inl h)

/-- Nothing but the API is asked just if the push connection is not to be asked. -/
theorem asks_api_iff : (∀ x ∈ ((s.insert access value).hold replies).1, ∃ call, x.question = .api call) ↔
    ¬ AsksPush access := by
  by_cases h : AsksPush access
  · refine iff_of_false (fun hall => ?_) (not_not_intro h)
    rw [hold_insert_asked h] at hall
    cases hreply : (replies 0 (.pushInsert s.name [.unstamped value]) : Bool) <;>
    · simp only [hreply, Bool.false_eq_true, if_true, if_false] at hall
      obtain ⟨call, hcall⟩ := hall _ List.mem_cons_self
      cases hcall
  · refine iff_of_true ?_ h
    rw [hold_insert_unasked h]
    simp

end Stream

namespace Desk

variable {policy : ReconnectPolicy} {d : Desk κ} {os : List (Occurrence κ)} {log : List (Note κ)}
  {i : Nat} {w : Insertion κ} {outcome : Outcome} {s : Stream} {value : Json}

/-- Over a push client, a value is put unless the push client said that it took it, and then it has
gone out on a socket instead. -/
theorem writes_of_unstamped (hrun : (openWith policy).run os = some (d, log))
    (hw : d.inserts[i]? = some w) (horder : w.order = (s, [.unstamped value], true))
    (hends : w.Ends outcome) :
    (writes i w.ticket log = [.request (s.putAlone value)] ∧
      ∀ t, w.ticket = some t → answers t (pushed log) = [false]) ∨
    (writes i w.ticket log = [.frame s.name [.unstamped value]] ∧ outcome = .ok () ∧
      ∃ t, w.ticket = some t ∧ answers t (pushed log) = [true]) := by
  obtain ⟨es, hkept⟩ := kept_of_run hrun
  obtain ⟨rfl, hpoints, hrestamp⟩ : w.stream = s ∧ w.points = [.unstamped value] ∧
      w.restamp = true := by simpa [Insertion.order] using horder
  rcases hkept.told_of_ends hw hends with ⟨t, ht, htold, hwrites, hok⟩ | ⟨htold, hwrites, -⟩
  · rw [hpoints] at hwrites
    exact Or.inr ⟨hwrites, hok, t, ht, htold⟩
  · rw [Insertion.call, hpoints, hrestamp, Stream.insertCall_unstamped] at hwrites
    exact Or.inl ⟨hwrites, htold⟩

end Desk

namespace Stream

/-- A single value is put over HTTP, in a body that is a list of one record with that value alone, and
nothing is put on the push connection, just if the push connection is not to be asked or does not take
the value; the push connection is not even asked just if it is not to be. Otherwise no request is made.
And over a push client, whatever has become of it and whatever else happens, a value has been put when
its insert ends just if the push client has not said that it took it; otherwise it has gone out on a
socket, once, and not been put. -/
theorem single_put_iff_untaken (access : Access) (s : Stream) (value : Json) :
    (∀ replies : Replies κ,
      (OnlyPut s value ((s.insert access value).hold replies).1 ↔
        ¬ AsksPush access ∨ (replies 0 (.pushInsert s.name [.unstamped value]) : Bool) = false) ∧
      ((∀ x ∈ ((s.insert access value).hold replies).1, ∃ call, x.question = .api call) ↔
        ¬ AsksPush access) ∧
      (¬ OnlyPut s value ((s.insert access value).hold replies).1 →
        (s.insert access value).hold replies =
          ([⟨.pushInsert s.name [.unstamped value], true⟩], .ok ()))) ∧
    ∀ policy os (d : Desk κ) log i w outcome, (Desk.openWith policy).run os = some (d, log) →
      d.inserts[i]? = some w → w.order = (s, [.unstamped value], true) → w.Ends outcome →
      (writes i w.ticket log = [.request (s.putAlone value)] ↔
        ∀ t, w.ticket = some t → answers t (pushed log) ≠ [true]) ∧
      (writes i w.ticket log ≠ [.request (s.putAlone value)] →
        writes i w.ticket log = [.frame s.name [.unstamped value]] ∧ outcome = .ok ()) := by
  refine ⟨fun replies => ⟨onlyPut_iff, asks_api_iff, fun h => ?_⟩,
    fun policy os d log i w outcome hrun hw horder hends => ?_⟩
  · obtain ⟨hasks, htaken⟩ := not_or.1 (mt onlyPut_iff.2 h)
    exact hold_insert_taken (not_not.1 hasks) (eq_true_of_ne_false htaken)
  · rcases Desk.writes_of_unstamped hrun hw horder hends with ⟨hput, htold⟩ | ⟨hframe, hok, t, ht, htold⟩
    · refine ⟨iff_of_true hput fun t ht hyes => ?_, fun hne => absurd hput hne⟩
      cases (htold t ht).symm.trans hyes
    · refine ⟨iff_of_false (fun hput => ?_) fun hall => hall t ht htold, fun _ => ⟨hframe, hok⟩⟩
      cases hframe.symm.trans hput

/-- Two values are inserted on a socket that is served. The first goes out there; the second gives the
push client up in the queue and is put. -/
def singles : List (Occurrence Unit) :=
  [.push .start, .push .opened, .push .recall, .push .serve,
    .begin ⟨true, true⟩ (.named "u/d/s") [.unstamped (.bool true)] true, .ask 0, .push (.enqueue 0),
    .push (.handle true),
    .begin ⟨true, true⟩ (.named "u/d/s") [.unstamped .null] true, .ask 1, .push (.enqueue 0),
    .push (.giveUp 1), .push .lost, .ask 1, .reply 1 (.ok .null)]

theorem single_put_iff_untaken_singles : ∃ d log,
    (Desk.openWith {}).run singles = some (d, log) ∧
    writes 1 (some 1) log = [.request (.put "u/d/s/data" (.array [.object [("d", .null)]]))] ∧
    answers 1 (pushed log) ≠ [true] := by
  have hrun : (Desk.openWith {}).run singles = some (_, _) := rfl
  have hwrites := (single_put_iff_untaken ⟨true, true⟩ (.named "u/d/s") .null).2 {} singles _ _ 1 _
    (.ok ()) hrun rfl rfl rfl
  refine ⟨_, _, hrun, rfl, ?_⟩
  exact hwrites.1.1 rfl 1 rfl

def taking : Replies Unit := fun _ question =>
  match question with
  | .api _ => .ok .null
  | .pushInsert _ _ => true
  | .subscribe _ _ | .unsubscribe _ => .ok ()

/-- A value that the push connection takes is not put at all: it goes out on a socket as it would if
it were appended. -/
theorem taken_not_put :
    ¬ OnlyPut (.named "u/d/s") (.bool true)
      (((Stream.named "u/d/s").insert ⟨true, true⟩ (.bool true)).hold taking).1 ∧
    requested (((Stream.named "u/d/s").insert ⟨true, true⟩ (.bool true)).hold taking).1 = [] ∧
    ∃ d log, (Desk.openWith {}).run singles = some (d, log) ∧
      writes 0 (some 0) log = [.frame "u/d/s" [.unstamped (.bool true)]] := by
  have hasks : AsksPush ⟨true, true⟩ := ⟨rfl, rfl⟩
  have htaken : ((Stream.named "u/d/s").insert ⟨true, true⟩ (.bool true)).hold taking =
      ([⟨.pushInsert "u/d/s" [.unstamped (.bool true)], true⟩], .ok ()) := hold_insert_taken hasks rfl
  rw [htaken]
  exact ⟨not_onlyPut_taken, rfl, _, _, rfl, rfl⟩

end Stream

end SeriesClient
