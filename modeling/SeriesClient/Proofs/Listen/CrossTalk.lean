import SeriesClient.Proofs.Listen.Audience
import Mathlib.Data.List.Basic

/-! No cross-talk between streams and their downlinks. A stream's name has three parts, its channel is
named by them and the channel of its downlink by one part more, so no two of these channels are the
same, and a callback has to do with its own one only. Whether an update came over a downlink is told
from how its channel ends, which is how a stream called "downlink" ends as well. -/

namespace SeriesClient

structure NamePart where
  text : String
  not_empty : text ≠ ""
  no_slash : '/' ∉ text.toList

@[ext] structure StreamName where
  user : NamePart
  device : NamePart
  stream : NamePart

namespace NamePart

theorem ext_chars {p q : NamePart} (h : p.text.toList = q.text.toList) : p = q := by
  cases p
  cases q
  rw [NamePart.mk.injEq]
  exact String.toList_injective h

def downlink : NamePart := ⟨"downlink", by decide, by decide⟩

end NamePart

namespace StreamName

def text (n : StreamName) : String :=
  n.user.text ++ "/" ++ n.device.text ++ "/" ++ n.stream.text

def parts (n : StreamName) (downlink : Bool) : List NamePart :=
  [n.user, n.device, n.stream] ++ if downlink then [.downlink] else []

def channel (n : StreamName) (downlink : Bool) : String := Channel.ofStream n.text downlink

theorem splitOn_channel (n : StreamName) (downlink : Bool) :
    (n.channel downlink).toList.splitOn '/' = (n.parts downlink).map (·.text.toList) := by
  have hjoin : (n.channel downlink).toList =
      ['/'].intercalate ((n.parts downlink).map (·.text.toList)) := by
    cases downlink <;>
      simp [channel, Channel.ofStream, text, parts, NamePart.downlink, Channel.downlinkSuffix,
        List.intercalate]
  rw [hjoin, List.splitOn_intercalate]
  · rintro _ hmem
    obtain ⟨part, -, rfl⟩ := List.mem_map.1 hmem
    exact part.no_slash
  · simp [parts]

theorem channel_injective {n m : StreamName} {b c : Bool} (h : n.channel b = m.channel c) :
    n = m ∧ b = c := by
  have hparts : (n.parts b).map (·.text.toList) = (m.parts c).map (·.text.toList) := by
    rw [← splitOn_channel, ← splitOn_channel, h]
  have hparts : n.parts b = m.parts c :=
    Function.Injective.list_map (fun p q => NamePart.ext_chars) hparts
  have hflag : b = c := by
    have hlength := congrArg List.length hparts
    cases b <;> cases c <;> simp [parts] at hlength ⊢
  subst hflag
  obtain ⟨huser, hdevice, hstream⟩ := by simpa [parts] using hparts
  exact ⟨StreamName.ext huser hdevice hstream, rfl⟩

end StreamName

theorem Channel.isDownlink_iff (c : String) :
    Channel.isDownlink c = true ↔ ∃ s, c.toList = s ++ Channel.downlinkSuffix.toList := by
  rw [Channel.isDownlink, List.isPrefixOf_iff_prefix, List.reverse_prefix]
  exact ⟨fun ⟨s, h⟩ => ⟨s, h.symm⟩, fun ⟨s, h⟩ => ⟨s, h.symm⟩⟩

namespace StreamName

/-- The channel of a downlink is told from that of a stream by its end, unless the stream's own name
ends in the same way. -/
theorem isDownlink_channel (n : StreamName) (downlink : Bool) :
    Channel.isDownlink (n.channel downlink) = downlink ↔
      ¬ (downlink = false ∧ n.stream = .downlink) := by
  cases downlink with
  | true =>
    simp only [Bool.true_eq_false, false_and, not_false_eq_true, iff_true]
    exact (Channel.isDownlink_iff _).2 ⟨n.text.toList, by simp [channel, Channel.ofStream]⟩
  | false =>
    rw [← Bool.not_eq_true, Channel.isDownlink_iff, not_iff_not, and_iff_right rfl]
    constructor
    · rintro ⟨s, hs⟩
      have hsplit : s.splitOn '/' ++ [NamePart.downlink.text.toList] =
          (n.parts false).map (·.text.toList) := by
        have hsuffix : Channel.downlinkSuffix.toList = '/' :: NamePart.downlink.text.toList := rfl
        rw [← splitOn_channel, hs, hsuffix, List.splitOn, List.splitOn,
          List.splitOnP_append_cons s _ (by decide)]
        rfl
      have hlast := congrArg List.getLast? hsplit
      exact NamePart.ext_chars (by simpa [parts, eq_comm] using hlast)
    · intro hstream
      refine ⟨(n.user.text ++ "/" ++ n.device.text).toList, ?_⟩
      simp [channel, Channel.ofStream, text, hstream, NamePart.downlink, Channel.downlinkSuffix]

end StreamName

namespace Audience

open Push

variable {κ : Type} {d d' : Audience κ} {h : Happening κ} {hs : List (Happening κ)}
  {new log : List (Note κ)} {n : Nat} {c : String}

/-- The channel that it subscribes to, unsubscribes from or delivers on: by a call, by the second step
of a call, or by a frame. -/
def concerned? (d : Audience κ) (h : Happening κ) : Option String :=
  match h.event? with
  | some (.enqueue i) =>
    match d.client.calls[i]? with
    | some (.subscribe c) | some (.unsubscribe c) => some c
    | _ => none
  | some e => e.calledOn?.or (e.update?.map Update.channel)
  | none => none

theorem concerned?_of_call {e : Event (Hearer κ)} (hevent : h.event? = some e)
    (hcall : e.calledOn? = some c) : d.concerned? h = some c := by
  rw [concerned?, hevent]
  cases e <;> simp_all [Event.calledOn?]

theorem concerned?_of_enqueue {i : Nat} (hevent : h.event? = some (.enqueue i))
    (hi : d.client.calls[i]? = some (.subscribe c)) : d.concerned? h = some c := by
  simp only [concerned?, hevent, hi]

theorem concerned?_of_update {e : Event (Hearer κ)} {update : Update} (hevent : h.event? = some e)
    (hupdate : e.update? = some update) : d.concerned? h = some update.channel := by
  rw [concerned?, hevent]
  cases e with
  | receive frame =>
    simp only [hupdate]
    rfl
  | _ => cases hupdate

/-- What does not concern the channel of a seat leaves its callback where it is and does not run it. -/
theorem untouched_of_turn (hd : d.Seated) (hn : d.channel? n = some c) (hturn : Turn d h d' new)
    (hother : d.concerned? h ≠ some c) :
    d'.client.registry.find? c = d.client.registry.find? c ∧ heard n (effects new) = [] := by
  cases hturn with
  | @event _ e client out hfits hevent hmove =>
    refine ⟨Client.find?_of_quiet hmove ?_ ?_, ?_⟩
    · intro hcall
      exact hother (concerned?_of_call hevent hcall)
    · intro hmem
      obtain ⟨i, rfl, hi, -, -⟩ := Client.find?_of_declined hmove hmem
      exact hother (concerned?_of_enqueue hevent hi)
    · rw [effects_map, List.eq_nil_iff_forall_not_mem]
      intro update hmem
      obtain ⟨hupdate, hfind⟩ := mem_heard_of_move hmove hmem
      have hchannel : some update.channel = some c := (hd _ _ hfind).symm.trans hn
      exact hother ((concerned?_of_update hevent hupdate).trans hchannel)
  | idle hfits hevent hreads => exact ⟨rfl, rfl⟩
  | took hinbox htake => exact ⟨rfl, rfl⟩
  | left hinbox => exact ⟨rfl, rfl⟩

/-- A seat hears what comes on its own channel. -/
theorem channel?_of_heard {policy : ReconnectPolicy} {update : Update}
    (hrun : (start policy).run hs = some (d, log)) (hmem : update ∈ heard n (effects log)) :
    d.channel? n = some update.channel := by
  revert hmem
  refine run_induction (P := fun _ d log => update ∈ heard n (effects log) →
    d.channel? n = some update.channel) ?_ ?_ hrun
  · intro hmem
    cases hmem
  · intro hs d log h d' new hhs ih hturn hmem
    rw [effects_append, heard_append, List.mem_append] at hmem
    refine channel?_of_turn hturn ?_
    rcases hmem with hmem | hmem
    · exact ih hmem
    · cases hturn with
      | event hfits hevent hmove =>
        rw [effects_map] at hmem
        obtain ⟨-, hfind⟩ := mem_heard_of_move hmove hmem
        exact seated_of_run hhs _ _ hfind
      | idle hfits hevent hreads => cases hmem
      | took hinbox htake => cases hmem
      | left hinbox => cases hmem

theorem channel?_of_mem {policy : ReconnectPolicy} {stream : Stream} {downlink : Bool}
    (hrun : (start policy).run hs = some (d, log)) (hmem : h ∈ hs)
    (hseats : h.Seats n stream downlink) :
    d.channel? n = some (Channel.ofStream stream.name downlink) := by
  revert hmem
  refine run_induction (P := fun hs d _ => h ∈ hs →
    d.channel? n = some (Channel.ofStream stream.name downlink)) ?_ ?_ hrun
  · intro hmem
    cases hmem
  · intro hs d log h' d' new _ ih hturn hmem
    rw [List.mem_append, List.mem_singleton] at hmem
    rcases hmem with hmem | rfl
    · exact channel?_of_turn hturn (ih hmem)
    · exact (registered_of_seats hseats hturn).1

/-- A callback that is registered by a subscribe or a watch on a stream, or on its downlink, gets the
updates that come on that channel and no others. That an update came over a downlink is told of it
rightly, except on the channel of a stream that is itself called "downlink". To subscribe, unsubscribe
or deliver on the channel of another stream, or on the other one of this stream, neither replaces nor
removes nor runs the callback. -/
theorem no_cross_talk {policy : ReconnectPolicy} {stream : Stream} {name : StreamName}
    {downlink : Bool} (hrun : (start policy).run hs = some (d, log)) (hmem : h ∈ hs)
    (hseats : h.Seats n stream downlink) (hname : stream.name = name.text) :
    (∀ update ∈ heard n (effects log), update.channel = name.channel downlink ∧
      (update.isDownlink = downlink ↔ ¬ (downlink = false ∧ name.stream = .downlink))) ∧
    ∀ name' downlink', (name', downlink') ≠ (name, downlink) → ∀ h' d' new,
      d.concerned? h' = some (name'.channel downlink') → d.step h' = some (d', new) →
        d'.client.registry.find? (name.channel downlink) =
          d.client.registry.find? (name.channel downlink) ∧ heard n (effects new) = [] := by
  have hn : d.channel? n = some (name.channel downlink) := by
    rw [channel?_of_mem hrun hmem hseats, hname, StreamName.channel]
  refine ⟨?_, ?_⟩
  · intro update hheard
    have hchannel : update.channel = name.channel downlink :=
      Option.some.inj ((channel?_of_heard hrun hheard).symm.trans hn)
    refine ⟨hchannel, ?_⟩
    rw [Update.isDownlink, hchannel]
    exact name.isDownlink_channel downlink
  · intro name' downlink' hne h' d' new hconcerned hstep
    refine untouched_of_turn (seated_of_run hrun) hn (turn_of_step hstep) ?_
    rw [hconcerned]
    intro hsame
    obtain ⟨rfl, rfl⟩ := StreamName.channel_injective (Option.some.inj hsame)
    exact hne rfl

def powerFrame : Frame :=
  .data [123, 34, 115, 116, 114, 101, 97, 109, 34, 58, 34, 97, 108, 105, 99, 101, 47, 108, 97, 109,
    112, 47, 112, 111, 119, 101, 114, 34, 125]

def powerDownlinkFrame : Frame :=
  .data [123, 34, 115, 116, 114, 101, 97, 109, 34, 58, 34, 97, 108, 105, 99, 101, 47, 108, 97, 109,
    112, 47, 112, 111, 119, 101, 114, 47, 100, 111, 119, 110, 108, 105, 110, 107, 34, 125]

def power : StreamName where
  user := ⟨"alice", by decide, by decide⟩
  device := ⟨"lamp", by decide, by decide⟩
  stream := ⟨"power", by decide, by decide⟩

/-- The readings of a lamp are watched and commands to it subscribed to, both come in, and the watch
is given up for a callback and then ended. -/
def lampRun : List (Happening Nat) :=
  [.push .start, .push .opened, .push .recall, .push .serve,
    .watch 0 ⟨true, true⟩ (.named "alice/lamp/power") false,
    .subscribe 1 ⟨true, true⟩ (.named "alice/lamp/power") true,
    .push (.receive powerFrame), .push (.receive powerDownlinkFrame), .take 0,
    .subscribe 2 ⟨true, true⟩ (.named "alice/lamp/power") false,
    .push (.receive powerFrame), .unsubscribe ⟨true, true⟩ (.named "alice/lamp/power") false,
    .push (.receive powerFrame), .push (.receive powerDownlinkFrame)]

theorem no_cross_talk_lamp : ∃ d log, (start {}).run lampRun = some (d, log) ∧
    (heard 0 (effects log)).map Update.channel = ["alice/lamp/power"] ∧
    (heard 1 (effects log)).map Update.channel =
      ["alice/lamp/power/downlink", "alice/lamp/power/downlink"] ∧
    (∀ update ∈ heard 1 (effects log), update.isDownlink = true) ∧
    ∀ h' d' new, d.concerned? h' = some (power.channel false) → d.step h' = some (d', new) →
      heard 1 (effects new) = [] := by
  obtain ⟨d, log, hrun, hwatch, hsubscribe⟩ : ∃ d log, (start {}).run lampRun = some (d, log) ∧
      (heard 0 (effects log)).map Update.channel = ["alice/lamp/power"] ∧
      (heard 1 (effects log)).map Update.channel =
        ["alice/lamp/power/downlink", "alice/lamp/power/downlink"] := ⟨_, _, rfl, rfl, rfl⟩
  have hmem : .subscribe 1 ⟨true, true⟩ (.named "alice/lamp/power") true ∈ lampRun := by
    simp [lampRun]
  have hseats : Happening.Seats 1 (.named "alice/lamp/power") true
      (.subscribe 1 ⟨true, true⟩ (.named "alice/lamp/power") true : Happening Nat) :=
    ⟨rfl, rfl, rfl, rfl⟩
  have hname : (Stream.named "alice/lamp/power").name = power.text := rfl
  obtain ⟨hheard, hothers⟩ := no_cross_talk hrun hmem hseats hname
  refine ⟨d, log, hrun, hwatch, hsubscribe, ?_, ?_⟩
  · intro update hmem
    exact (hheard update hmem).2.2 (by simp)
  · intro h' d' new hconcerned hstep
    exact (hothers power false (by simp) h' d' new hconcerned hstep).2

def downlinkFrame : Frame :=
  .data [123, 34, 115, 116, 114, 101, 97, 109, 34, 58, 34, 97, 108, 105, 99, 101, 47, 108, 97, 109,
    112, 47, 100, 111, 119, 110, 108, 105, 110, 107, 34, 125]

/-- Readings of a stream that is itself called "downlink" pass for what comes over a downlink. -/
theorem reading_passes_for_downlink : ∃ d log update,
    (start {}).run ([.push .start, .push .opened, .push .recall, .push .serve,
      .subscribe 0 ⟨true, true⟩ (.named "alice/lamp/downlink") false,
      .push (.receive downlinkFrame)] : List (Happening Nat)) = some (d, log) ∧
    heard 0 (effects log) = [update] ∧ update.channel = "alice/lamp/downlink" ∧
    update.isDownlink = true :=
  ⟨_, _, _, rfl, rfl, rfl, by decide⟩

end Audience
end SeriesClient
