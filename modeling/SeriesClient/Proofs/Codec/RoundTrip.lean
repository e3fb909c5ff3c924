import SeriesClient.Proofs.Codec.Record
import SeriesClient.Proofs.Codec.Utf8
import SeriesClient.Message

/-! What goes over the push connection is read back from its text: messages, updates and datapoints.
A time that is not finite has no JSON form and is written as if it were unset. -/

namespace SeriesClient

open Json Reader

namespace Datapoint

/-- The datapoint as it is read back: a time that is not finite is unset. -/
def settled (p : Datapoint) : Datapoint := { p with time := p.time.filter (·.isFinite) }

def fields (p : Datapoint) : Fields where
  time := p.time.map fun t => if t.isFinite then some t else none
  data := some p.data.json
  origin := p.origin.map some

theorem finish_fields (p : Datapoint) : p.fields.finish = .ok p.settled := by
  obtain ⟨time, data, origin⟩ := p
  cases time <;> cases origin <;> simp [fields, Fields.finish, settled, Option.filter]

theorem reads_time {t : Float} (h : ∀ x ∈ (ofFloat t).reals, ReadsBack x) :
    Reads (optional readFloat) (ofFloat t).chars (if t.isFinite then some t else none) := by
  unfold ofFloat at h ⊢
  split_ifs at h ⊢ with hfinite
  · exact reads_float (reads_number h)
  · exact reads_optional_null

theorem reads_member_time {n : Nat} {f : Fields} {t : Float} (hf : f.time = none)
    (h : ∀ x ∈ (ofFloat t).reals, ReadsBack x) :
    Reads (readMember n "t" f) (':' :: (ofFloat t).chars)
      { f with time := some (if t.isFinite then some t else none) } := by
  intro rest hrest
  rw [readMember, if_pos rfl, hf, if_neg (by decide)]
  exact (bind_ok (colon_cons _)).trans (bind_ok (reads_time h rest hrest))

theorem reads_member_data {n : Nat} {f : Fields} {d : Json} (hf : f.data = none)
    (h : Readable n d) :
    Reads (readMember n "d" f) (':' :: d.chars) { f with data := some d } := by
  intro rest hrest
  rw [readMember, if_neg (by decide), if_pos rfl, hf, if_neg (by decide)]
  exact (bind_ok (colon_cons _)).trans (bind_ok (reads_readValue h rest hrest))

theorem reads_member_origin {n : Nat} {f : Fields} {o : String} (hf : f.origin = none) :
    Reads (readMember n "o" f) (':' :: (Json.string o).chars) { f with origin := some (some o) } := by
  intro rest hrest
  rw [readMember, if_neg (by decide), if_neg (by decide), if_pos rfl, hf, if_neg (by decide)]
  exact (bind_ok (colon_cons _)).trans (bind_ok (reads_optional_text (readString_stringRest o) rest hrest))

theorem takes_fields {n : Nat} {p : Datapoint} (h : Readable (n + 1) p.toJson) :
    Takes (readMember n) ((p.time.toList.map fun t => ("t", Json.ofFloat t)) ++ ("d", p.data.json) ::
      (p.origin.toList.map fun o => ("o", Json.string o))) {} p.fields := by
  have hmembers := readable_object_iff.1 h
  have hdata : Readable n p.data.json := hmembers ("d", p.data.json) (by simp)
  have htimes : ∀ t ∈ p.time, ∀ x ∈ (ofFloat t).reals, ReadsBack x := fun t ht =>
    (hmembers ("t", Json.ofFloat t) (by simp [Option.mem_def.1 ht])).reals
  obtain ⟨time, data, origin⟩ := p
  have htime : Takes (readMember n) (time.toList.map fun t => ("t", Json.ofFloat t)) {}
      { time := (Datapoint.mk time data origin).fields.time } := by
    cases time with
    | none => exact .nil
    | some t => exact .cons (reads_member_time rfl (htimes t rfl)) .nil
  refine htime.append (.cons (reads_member_data rfl hdata) ?_)
  cases origin with
  | none => exact .nil
  | some o => exact .cons (reads_member_origin rfl) .nil

theorem reads_read {n : Nat} {p : Datapoint} (h : Readable n p.toJson) :
    Reads (read n) p.toJson.chars p.settled := by
  cases n with
  | zero => exact absurd h not_readable_zero_object
  | succ n =>
    refine reads_record fun rest => ?_
    refine (bind_ok (members_memberChars (takes_fields h) rest)).trans ?_
    rw [finish_fields]
    rfl

theorem readsEach_settled {n : Nat} {points : List Datapoint}
    (h : ∀ p ∈ points, Readable n p.toJson) :
    ReadsEach (read n) (points.map toJson) (points.map settled) := by
  rw [ReadsEach, List.forall₂_map_left_iff, List.forall₂_map_right_iff]
  exact List.forall₂_same.2 fun p hp => ⟨begins_chars (h p hp), reads_read (h p hp)⟩

theorem reads_readList {n : Nat} {points : List Datapoint} (h : Readable n (listToJson points)) :
    Reads (readList n) (listToJson points).chars (points.map settled) := by
  cases n with
  | zero => exact absurd h not_readable_zero_array
  | succ n =>
    have hitems := readable_array_iff.1 h
    exact reads_listOf (readsEach_settled fun p hp => hitems _ (List.mem_map_of_mem hp))

theorem timeOfJson_ofFloat (t : Float) :
    timeOfJson (ofFloat t) = .ok (if t.isFinite then some t else none) := by
  unfold ofFloat
  split_ifs with hfinite <;> rfl

theorem foldlM_takeMember (p : Datapoint) :
    ((p.time.toList.map fun t => ("t", Json.ofFloat t)) ++ ("d", p.data.json) ::
      (p.origin.toList.map fun o => ("o", Json.string o))).foldlM
      (fun (f : Fields) m => f.takeMember m.1 m.2) {} = .ok p.fields := by
  obtain ⟨time, data, origin⟩ := p
  cases time with
  | none => cases origin <;> rfl
  | some t =>
    have htime : Fields.takeMember {} "t" (ofFloat t) =
        .ok { time := some (if t.isFinite then some t else none) } := by
      rw [Fields.takeMember, if_pos rfl, if_neg (by decide), timeOfJson_ofFloat]
      rfl
    cases origin with
    | none =>
      simp only [Option.toList_some, List.map_cons, List.map_nil, List.cons_append, List.nil_append,
        List.foldlM_cons, htime]
      rfl
    | some o =>
      simp only [Option.toList_some, List.map_cons, List.map_nil, List.cons_append, List.nil_append,
        List.foldlM_cons, htime]
      rfl

theorem ofJson_toJson (p : Datapoint) : ofJson p.toJson = .ok p.settled := by
  simp only [toJson, ofJson, ofMembers, foldlM_takeMember]
  exact finish_fields p

theorem listOfJson_listToJson (points : List Datapoint) :
    listOfJson (listToJson points) = .ok (points.map settled) := by
  simp only [listToJson, listOfJson, List.mapM_map]
  induction points with
  | nil => rfl
  | cons p points ih =>
    simp only [List.mapM_cons, Function.comp_apply, ofJson_toJson, ih]
    rfl

end Datapoint

namespace Update

def settled (u : Update) : Update := { u with points := u.points.map Datapoint.settled }

theorem reads_member_channel {n : Nat} {f : Fields} {c : String} (hf : f.channel = none) :
    Reads (readMember n "stream" f) (':' :: (Json.string c).chars) { f with channel := some c } := by
  intro rest hrest
  rw [readMember, if_pos rfl, hf, if_neg (by decide)]
  exact (bind_ok (colon_cons _)).trans (bind_ok (reads_text (readString_stringRest c) rest hrest))

theorem reads_member_points {n : Nat} {f : Fields} {points : List Datapoint} (hf : f.points = none)
    (h : Readable n (Datapoint.listToJson points)) :
    Reads (readMember n "data" f) (':' :: (Datapoint.listToJson points).chars)
      { f with points := some (points.map Datapoint.settled) } := by
  intro rest hrest
  rw [readMember, if_neg (by decide), if_pos rfl, hf, if_neg (by decide)]
  exact (bind_ok (colon_cons _)).trans (bind_ok (Datapoint.reads_readList h rest hrest))

theorem reads_read {n : Nat} {u : Update} (h : Readable n u.toJson) :
    Reads (read n) u.toJson.chars u.settled := by
  cases n with
  | zero => exact absurd h not_readable_zero_object
  | succ n =>
    have hpoints : Readable n (Datapoint.listToJson u.points) :=
      readable_object_iff.1 h ("data", _) (List.mem_cons_of_mem _ List.mem_cons_self)
    have htakes : Takes (readMember n)
        [("stream", .string u.channel), ("data", Datapoint.listToJson u.points)] {}
        ⟨some u.channel, some (u.points.map Datapoint.settled)⟩ :=
      .cons (reads_member_channel rfl) (.cons (reads_member_points rfl hpoints) .nil)
    refine reads_record fun rest => ?_
    exact (bind_ok (members_memberChars htakes rest)).trans rfl

end Update

namespace Message

def settled : Message → Message
  | subscribe c => subscribe c
  | unsubscribe c => unsubscribe c
  | insert c points => insert c (points.map Datapoint.settled)

def points : Message → List Datapoint
  | insert _ points => points
  | _ => []

abbrev takeMember (depth : Nat) (name : String) (state : Option Command × Json.Members) :
    Reader (Option Command × Json.Members) := do
  if name = commandField then
    if state.1.isSome then Reader.mismatch (.repeated commandField)
    else
      Reader.colon
      let c ← readCommand
      pure (some c, state.2)
  else
    Reader.colon
    let v ← Reader.readValue depth
    pure (state.1, (name, v) :: state.2)

theorem reads_command {name : String} {command : Command} (h : Command.ofName? name = some command) :
    Reads readCommand (Json.string name).chars command := by
  intro rest hrest
  refine (bind_ok (reads_text (readString_stringRest name) rest hrest)).trans ?_
  rw [h]
  rfl

theorem takes_arguments {n : Nat} {command : Command} {members : Members}
    (h : ∀ m ∈ members, m.1 ≠ commandField ∧ Readable n m.2) (done : Members) :
    Takes (takeMember n) members (some command, done) (some command, members.reverse ++ done) := by
  induction members generalizing done with
  | nil => exact .nil
  | cons m members ih =>
    obtain ⟨name, value⟩ := m
    obtain ⟨⟨hname, hvalue⟩, hmembers⟩ := List.forall_mem_cons.1 h
    rw [List.reverse_cons, List.append_assoc]
    refine .cons (fun rest hrest => ?_) (ih hmembers ((name, value) :: done))
    rw [takeMember, if_neg hname]
    exact (bind_ok (colon_cons _)).trans (bind_ok (reads_readValue hvalue rest hrest))

/-- A message is read if its command is known and its other members are arguments of it. -/
theorem reads_arguments {n : Nat} {name : String} (command : Command) {members : Members}
    {m : Message} (hname : Command.ofName? name = some command)
    (hnames : ∀ m ∈ members, m.1 ≠ commandField)
    (h : Readable (n + 1) (.object ((commandField, .string name) :: members)))
    (hm : Arguments.ofMembers command members = .ok m) :
    Reads (read (n + 1)) (Json.object ((commandField, .string name) :: members)).chars m := by
  have hvalues := readable_object_iff.1 h
  have htakes : Takes (takeMember n) ((commandField, .string name) :: members) (none, [])
      (some command, members.reverse) := by
    have harguments : Takes (takeMember n) members (some command, [])
        (some command, members.reverse ++ []) :=
      takes_arguments (fun m hm => ⟨hnames m hm, hvalues m (List.mem_cons_of_mem _ hm)⟩) []
    rw [List.append_nil] at harguments
    refine .cons (fun rest hrest => ?_) harguments
    rw [takeMember, if_pos rfl, if_neg (by decide)]
    exact (bind_ok (colon_cons _)).trans (bind_ok (reads_command hname rest hrest))
  have hrecord : Reads (record expected readItems readObject (n + 1))
      (Json.object ((commandField, .string name) :: members)).chars (command, .object members) := by
    refine reads_record fun rest => ?_
    refine (bind_ok (members_memberChars htakes rest)).trans ?_
    simp only [List.reverse_reverse]
    rfl
  intro rest hrest
  refine (bind_ok (hrecord rest hrest)).trans ?_
  dsimp only
  rw [hm]
  rfl

theorem takeMember_points {a : Arguments} (points : List Datapoint) (ha : a.points = none) :
    a.takeMember true "d" (Datapoint.listToJson points) =
      .ok { a with points := some (points.map Datapoint.settled) } := by
  rw [Arguments.takeMember, if_neg (by decide), if_pos (by decide), ha, if_neg (by decide),
    Datapoint.listOfJson_listToJson]
  rfl

theorem ofMembers_insert (c : String) (points : List Datapoint) :
    Arguments.ofMembers .insert [("arg", .string c), ("d", Datapoint.listToJson points)] =
      .ok (.insert c (points.map Datapoint.settled)) := by
  have hchannel : Arguments.takeMember true {} "arg" (.string c) = .ok { channel := some c } := rfl
  have hpoints := takeMember_points (a := { channel := some c }) points rfl
  simp only [Arguments.ofMembers, Command.takesPoints, List.foldlM_cons, List.foldlM_nil, hchannel,
    bind, Except.bind, hpoints]
  rfl

theorem reads_read {n : Nat} {m : Message} (h : Readable n m.toJson) :
    Reads (read n) m.toJson.chars m.settled := by
  cases n with
  | zero => cases m <;> exact absurd h not_readable_zero_object
  | succ n =>
    cases m with
    | subscribe c => exact reads_arguments .subscribe rfl (by simp [commandField]) h rfl
    | unsubscribe c => exact reads_arguments .unsubscribe rfl (by simp [commandField]) h rfl
    | insert c points =>
      exact reads_arguments .insert rfl (by simp [commandField]) h (ofMembers_insert c points)

end Message

/-- A document of which the text is read back: it nests no more than 127 lists and objects, and each of
its floating-point numbers reads back by itself. -/
structure Legible (d : Json) : Prop where
  nesting : d.depth ≤ 127
  reals : ∀ x ∈ d.reals, ReadsBack x

namespace Datapoint

def Timed (p : Datapoint) : Prop := ∀ t, p.time = some t → t.isFinite = true

theorem settled_of_timed {p : Datapoint} (h : p.Timed) : p.settled = p := by
  obtain ⟨time, data, origin⟩ := p
  cases time with
  | none => rfl
  | some t => simp [settled, h t rfl]

theorem map_settled {points : List Datapoint} (h : ∀ p ∈ points, p.Timed) :
    points.map settled = points :=
  (List.map_congr_left fun p hp => settled_of_timed (h p hp)).trans (List.map_id points)

end Datapoint

theorem Message.settled_of_timed {m : Message} (h : ∀ p ∈ m.points, p.Timed) : m.settled = m := by
  cases m with
  | subscribe c => rfl
  | unsubscribe c => rfl
  | insert c points => exact congrArg (Message.insert c) (Datapoint.map_settled h)

theorem Update.settled_of_timed {u : Update} (h : ∀ p ∈ u.points, p.Timed) : u.settled = u := by
  rw [settled, Datapoint.map_settled h]

theorem decode_of_reads {α : Type} {r : Reader α} {d : Json} {a : α} (h : Reads r d.chars a) :
    Reader.run r (Glyph.ofBytes d.text.toUTF8.data.toList) = .ok a := by
  rw [Glyph.ofBytes_toUTF8, Glyph.ofString, Json.text, String.toList_ofList]
  exact run_of_reads h

/-- Messages, updates and datapoints are read back from the bytes of their texts, with each time that
is not finite unset and nothing else changed. If all times are finite or unset, what is read back has
the same text. -/
theorem decode_encode :
    (∀ m : Message, Legible m.toJson →
      Message.decode (Glyph.ofBytes m.encode.toUTF8.data.toList) = .ok m.settled ∧
      ((∀ p ∈ m.points, p.Timed) → m.settled.encode = m.encode)) ∧
    (∀ u : Update, Legible u.toJson →
      Update.decode (Glyph.ofBytes u.encode.toUTF8.data.toList) = .ok u.settled ∧
      ((∀ p ∈ u.points, p.Timed) → u.settled.encode = u.encode)) ∧
    (∀ p : Datapoint, Legible p.toJson →
      Datapoint.decode (Glyph.ofBytes p.toJson.text.toUTF8.data.toList) = .ok p.settled ∧
      (p.Timed → p.settled.toJson.text = p.toJson.text)) := by
  refine ⟨fun m h => ⟨?_, fun ht => ?_⟩, fun u h => ⟨?_, fun ht => ?_⟩, fun p h => ⟨?_, fun ht => ?_⟩⟩
  · exact decode_of_reads (Message.reads_read ⟨h.nesting, h.reals⟩)
  · rw [Message.settled_of_timed ht]
  · exact decode_of_reads (Update.reads_read ⟨h.nesting, h.reals⟩)
  · rw [Update.settled_of_timed ht]
  · exact decode_of_reads (Datapoint.reads_read ⟨h.nesting, h.reals⟩)
  · rw [Datapoint.settled_of_timed ht]

def readings : Message :=
  .insert "u/d/s"
    [⟨some 1.5, Json.object [("a", .array [.string "\"é\n", .null]), ("b", ofInt (-3))], some "u/dev"⟩,
      ⟨some (0.0 / 0.0), ofFloat 2.5, none⟩]

theorem readsBack_of_text {x : Float} {chars : List Char} (htext : realLayout.text x = chars)
    (hread : ∀ h, readNumber (Glyph.ofChars chars) = .ok (.real x h, [])) : ReadsBack x := by
  intro h
  rw [Number.chars, htext]
  exact hread h

theorem decode_encode_readings :
    Message.decode (Glyph.ofBytes readings.encode.toUTF8.data.toList) = .ok (.insert "u/d/s"
      [⟨some 1.5, Json.object [("a", .array [.string "\"é\n", .null]), ("b", ofInt (-3))], some "u/dev"⟩,
        ⟨none, ofFloat 2.5, none⟩]) := by
  have hlegible : Legible readings.toJson := by
    refine ⟨by decide, ?_⟩
    have hreals : readings.toJson.reals = [1.5, 2.5] := rfl
    rw [hreals]
    rintro x (_ | ⟨_, _ | ⟨_, h⟩⟩)
    · exact readsBack_of_text (by decide +kernel : realLayout.text 1.5 = ['1', '.', '5']) fun _ => rfl
    · exact readsBack_of_text (by decide +kernel : realLayout.text 2.5 = ['2', '.', '5']) fun _ => rfl
    · cases h
  exact (decode_encode.1 readings hlegible).1

end SeriesClient
