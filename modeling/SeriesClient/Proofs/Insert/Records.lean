import SeriesClient.Proofs.Codec.Normal
import SeriesClient.Proofs.Insert.OneWrite
import SeriesClient.Http.Api

/-! What an insert writes does not depend on the way it goes. The frame has each datapoint as it is, its
fields in the order of the record; the request has it as a document, with its fields in order by name.
Both have the same fields with the same texts. -/

namespace SeriesClient

open Json Push

/-- The texts of the fields that are written of a datapoint: the unset ones are left out, and a time
that is not finite is null. -/
def Datapoint.fieldTexts (p : Datapoint) : List (String × List Char) :=
  (p.time.toList.map fun t =>
      ("t", if t.isFinite then realLayout.text t else ['n', 'u', 'l', 'l'])) ++
    ("d", p.data.json.chars) :: p.origin.toList.map fun o => ("o", stringChars o)

def Json.texts (members : Members) : List (String × List Char) := members.map fun m => (m.1, m.2.chars)

/-- Two records of a datapoint. Each has the fields that are written of it and no others, once each and
with the same texts; only the order of the fields may differ. -/
def SameRecord (p : Datapoint) (record record' : Json) : Prop :=
  ∃ members members', record = .object members ∧ record' = .object members' ∧
    texts members = p.fieldTexts ∧ members'.Perm members ∧ (names members).Nodup

inductive SameRecords : List Datapoint → List Json → List Json → Prop where
  | nil : SameRecords [] [] []
  | cons {p : Datapoint} {points : List Datapoint} {record record' : Json}
      {records records' : List Json} (hfirst : SameRecord p record record')
      (hrest : SameRecords points records records') :
      SameRecords (p :: points) (record :: records) (record' :: records')

namespace Datapoint

def members (p : Datapoint) : Members :=
  (p.time.toList.map fun t => ("t", Json.ofFloat t)) ++ ("d", p.data.json) ::
    (p.origin.toList.map fun o => ("o", Json.string o))

theorem toJson_eq (p : Datapoint) : p.toJson = .object p.members := rfl

theorem chars_ofFloat (t : Float) :
    (Json.ofFloat t).chars = if t.isFinite then realLayout.text t else ['n', 'u', 'l', 'l'] := by
  unfold ofFloat
  split_ifs
  · rw [chars, Number.chars]
  · rw [chars]

theorem texts_members (p : Datapoint) : texts p.members = p.fieldTexts := by
  obtain ⟨time, data, origin⟩ := p
  cases time <;> cases origin <;> simp [texts, members, fieldTexts, chars_ofFloat, chars]

theorem nodup_members (p : Datapoint) : (names p.members).Nodup := by
  obtain ⟨time, data, origin⟩ := p
  cases time <;> cases origin <;> simp [names, members]

/-- A field other than the payload holds nothing that could be put in order. -/
theorem normalize_members (p : Datapoint) : ∀ m ∈ p.members, m.2.normalize = m.2 := by
  intro m hm
  rcases List.mem_append.1 hm with htime | hrest
  · obtain ⟨t, -, rfl⟩ := List.mem_map.1 htime
    exact normalize_ofFloat t
  · rcases List.mem_cons.1 hrest with rfl | horigin
    · exact p.data.sorted
    · obtain ⟨o, -, rfl⟩ := List.mem_map.1 horigin
      exact normalize_string o

theorem sameRecord_normalize (p : Datapoint) : SameRecord p p.toJson p.toJson.normalize :=
  ⟨p.members, sortMembers p.members, p.toJson_eq, normalize_object_of_fixed p.normalize_members,
    p.texts_members, sortMembers_perm p.nodup_members, p.nodup_members⟩

theorem sameRecords_normalize (points : List Datapoint) :
    SameRecords points (points.map toJson) ((points.map toJson).map normalize) := by
  induction points with
  | nil => exact .nil
  | cons p points ih => exact .cons p.sameRecord_normalize ih

end Datapoint

variable {κ : Type}

theorem Push.Slip.Stands.frames_eq {p q : Parcel} {a : Slip} (h : a.Stands p) (hq : q ∈ a.frames) :
    q = p := by
  cases h with
  | sent => exact List.mem_singleton.1 hq
  | _ => cases hq

theorem Insertion.Stage.requests_eq {w : Insertion κ} {i : Nat} {log : List (Note κ)} {call : Call}
    (h : w.Stage i log) (hcall : call ∈ requests i log) : call = w.call := by
  cases h with
  | calling _ _ hreads | awaiting _ _ hreads | inserted _ _ hreads | falling _ hreads =>
    rw [hreads.calls] at hcall
    cases hcall
  | requested _ hreads | written _ hreads =>
    rw [hreads.calls] at hcall
    exact List.mem_singleton.1 hcall

theorem mem_writes {i : Nat} {ticket : Option Nat} {log : List (Note κ)} {x : Write}
    (h : x ∈ writes i ticket log) :
    (∃ t channel points, ticket = some t ∧ (channel, points) ∈ frames t (pushed log) ∧
      x = .frame channel points) ∨ ∃ call ∈ requests i log, x = .request call := by
  obtain ⟨note, hnote, hx⟩ := List.mem_filterMap.1 h
  cases note with
  | pushed effect =>
    cases effect with
    | forwarded t channel points =>
      obtain ⟨hticket, hx⟩ : ticket = some t ∧ Write.frame channel points = x := by simpa using hx
      refine Or.inl ⟨t, channel, points, hticket, ?_, hx.symm⟩
      exact List.mem_filterMap.2 ⟨_, List.mem_filterMap.2 ⟨_, hnote, rfl⟩, if_pos rfl⟩
    | _ => cases hx
  | requested j call =>
    obtain ⟨hj, hx⟩ : j = i ∧ Write.request call = x := by simpa using hx
    exact Or.inr ⟨call, List.mem_filterMap.2 ⟨_, hnote, if_pos hj⟩, hx.symm⟩
  | replied j answer => cases hx

/-- An insert writes nothing but its points, in a frame or in a request. -/
theorem Desk.Kept.writes_eq {policy : ReconnectPolicy} {os : List (Occurrence κ)} {d : Desk κ}
    {log : List (Note κ)} {es : List (Event κ)} (h : Kept policy os d log es) {i : Nat}
    {w : Insertion κ} (hw : d.inserts[i]? = some w) {x : Write} (hx : x ∈ writes i w.ticket log) :
    x = .frame w.stream.name w.points ∨ x = .request w.call := by
  rcases mem_writes hx with ⟨t, channel, points, hticket, hframe, rfl⟩ | ⟨call, hcall, rfl⟩
  · have hstands := (Client.accounts_of_run h.run).stands t w.parcel (h.parcel i w t hw hticket)
    cases hstands.frames_eq hframe
    exact Or.inl rfl
  · exact Or.inr (congrArg Write.request ((h.stage i w hw).requests_eq hcall))

namespace Desk

variable {policy : ReconnectPolicy} {d : Desk κ} {os : List (Occurrence κ)} {log : List (Note κ)}

/-- However the steps of inserts fall together with those of the push client, an insert writes its
points in a frame or in a request. The frame names the stream, and the request is for the data of the
stream. The two carry the same document: a record for each of the points, in their order, with the
same fields and the same texts of the fields, which may be in another order in each record. -/
theorem same_records_written {i : Nat} {w : Insertion κ}
    (hrun : (openWith policy).run os = some (d, log)) (hw : d.inserts[i]? = some w) :
    (∀ x ∈ writes i w.ticket log, x = .frame w.stream.name w.points ∨
      x = .request (w.stream.insertCall w.points w.restamp)) ∧
    ∃ records records', SameRecords w.points records records' ∧
      (Json.array records).normalize = (Json.array records').normalize ∧
      (Message.insert w.stream.name w.points).encode = (Json.object
        [("cmd", .string "insert"), ("arg", .string w.stream.name), ("d", .array records)]).text ∧
      (w.stream.insertCall w.points w.restamp = if w.restamp
        then .put (w.stream.name ++ "/data") (.array records')
        else .post (w.stream.name ++ "/data") (.array records')) ∧
      ∀ (api : Http.Api) request, api.request (w.stream.insertCall w.points w.restamp) = .ok request →
        request.body = some (.array records') := by
  obtain ⟨es, hkept⟩ := kept_of_run hrun
  have hbody : Stream.insertBody w.points =
      .array ((w.points.map Datapoint.toJson).map normalize) := normalize_array _
  refine ⟨fun x hx => hkept.writes_eq hw hx, w.points.map Datapoint.toJson,
    (w.points.map Datapoint.toJson).map normalize, Datapoint.sameRecords_normalize w.points, ?_, rfl,
    ?_, fun api request hrequest => ?_⟩
  · rw [← normalize_array, normalize_normalize]
  · rw [← hbody]
    rfl
  · obtain ⟨-, -, -, -, hsent⟩ := Http.Api.request_cases hrequest
    rw [hsent, ← hbody, Stream.insertCall]
    split_ifs <;> rfl

/-- One datapoint without a time that is a number, and one of which all is set. -/
def mixed : List Datapoint :=
  [⟨some (0.0 / 0.0), Json.object [("a", .array [.null]), ("b", ofInt (-3))], none⟩,
    ⟨some 1.5, Json.string "é\n", some "u/dev"⟩]

def mixedErrands : List (Occurrence Nat) :=
  [.push .start, .push .opened, .push .recall, .push .serve,
    .begin ⟨true, true⟩ (.named "u/d/s") mixed true, .ask 0, .push (.enqueue 0), .push (.handle true),
    .begin ⟨true, false⟩ (.named "u/d/s") mixed true, .ask 1]

theorem same_records_written_mixed : ∃ d log,
    (openWith {}).run mixedErrands = some (d, log) ∧
    writes 0 (some 0) log = [.frame "u/d/s" mixed] ∧
    writes 1 none log = [.request (.put "u/d/s/data" (Stream.insertBody mixed))] ∧
    ∃ records records', SameRecords mixed records records' ∧
      (Message.insert "u/d/s" mixed).encode = (Json.object
        [("cmd", .string "insert"), ("arg", .string "u/d/s"), ("d", .array records)]).text ∧
      Stream.insertBody mixed = .array records' := by
  have hrun : (openWith {}).run mixedErrands = some (_, _) := rfl
  refine ⟨_, _, hrun, rfl, rfl, ?_⟩
  obtain ⟨-, records, records', hrecords, -, hframe, hcall, -⟩ :=
    same_records_written (i := 1) hrun rfl
  exact ⟨records, records', hrecords, hframe, (Call.put.inj hcall).2⟩

end Desk

end SeriesClient
