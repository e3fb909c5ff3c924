import SeriesClient.Proofs.Push.Run
import Mathlib.Data.List.DropRight

/-! Subscriptions converge: for each channel the last command still to be handled, or else the set of
channels announced on the socket, says the same as the registry. Commands that were queued during an
outage are handled after a replay that reflects them already, so the invariant looks at the last
command on a channel, wherever it is on its way, and at the socket only where there is none. -/

namespace SeriesClient.Push

variable {κ : Type}

def Command.isOn (c : String) : Command → Bool
  | .subscribe d | .unsubscribe d => d == c
  | _ => false

def Command.lastOn (c : String) (commands : List Command) : Option Command :=
  (commands.filter (Command.isOn c)).getLast?

/-- Whether the socket failed to take a frame that was handed to it. -/
def Event.missed : Event κ → Bool
  | .announce _ taken | .handle taken => !taken
  | _ => false

def Event.opens : Event κ → Bool
  | .opened => true
  | _ => false

def thisSocket (es : List (Event κ)) : List (Event κ) := es.rtakeWhile fun e => !e.opens

/-- The channels that the server takes to be subscribed on the socket, after one more effect. -/
def Effect.hear (told : List String) : Effect κ → List String
  | .entered .connected => []
  | .sent (.subscribe c) => c :: told
  | .sent (.unsubscribe c) => told.filter (· != c)
  | _ => told

def heard (out : List (Effect κ)) : List String := out.foldl Effect.hear []

namespace Client

def isCalledOn (s : Client κ) (c : String) : Bool := s.calls.any (Command.isOn c)

/-- No call begins while another one on its channel is under way. -/
def callsApart (s : Client κ) : List (Event κ) → Bool
  | [] => true
  | e :: es =>
    !e.calledOn?.any s.isCalledOn &&
      match s.step e with
      | some (m, _) => m.callsApart es
      | none => true

def announced (s : Client κ) : List String :=
  match s.phase with
  | .announcing _ active | .serving active => active
  | _ => []

def unannounced (s : Client κ) : List String :=
  match s.phase with
  | .opening => s.registry.channels
  | .announcing todo _ => todo
  | _ => []

/-- On the socket that is up, the channel is or will be announced just if it is registered. -/
def Reflects (c : String) (s : Client κ) : Prop :=
  s.phase.isUp = true → (c ∈ s.announced ∨ c ∈ s.unannounced ↔ c ∈ s.registry.channels)

/-- A socket is up on which `active` has been announced and nothing is left to announce. -/
def Replayed (s : Client κ) (active : List String) : Prop :=
  s.phase = .announcing [] active ∨ s.phase = .serving active

structure Settled (c : String) (s : Client κ) : Prop where
  alone : (s.calls.filter (Command.isOn c)).length ≤ 1
  asked : ∀ command, Command.lastOn c (s.queue ++ s.calls) = some command →
    (command = .subscribe c ↔ c ∈ s.registry.channels)
  socket : Command.lastOn c (s.queue ++ s.calls) = none → s.Reflects c

variable {c : String} {s s' : Client κ} {e : Event κ} {es : List (Event κ)}
  {out : List (Effect κ)}

theorem filter_calls_of_isCalledOn (h : s.isCalledOn c = false) :
    s.calls.filter (Command.isOn c) = [] := by
  rw [List.filter_eq_nil_iff]
  intro command hcommand hon
  simp only [isCalledOn, List.any_eq_false] at h
  exact h command hcommand hon

theorem reflects_of_phase (hphase : s'.phase = s.phase)
    (hregistry : c ∈ s'.registry.channels ↔ c ∈ s.registry.channels) (h : s.Reflects c) :
    s'.Reflects c := by
  intro hup
  have hold := h (hphase ▸ hup)
  rw [hregistry, ← hold]
  unfold announced unannounced
  rw [hphase]
  cases hp : s.phase with
  | opening => simp [hregistry]
  | _ => rfl

theorem reflects_iff_of_replayed {active : List String} (h : s.Replayed active) :
    s.Reflects c ↔ (c ∈ active ↔ c ∈ s.registry.channels) := by
  rcases h with hphase | hphase <;> simp [Reflects, announced, unannounced, hphase, Phase.isUp]

theorem reflects_serving_iff {active : List String} (hphase : s.phase = .serving active) :
    s.Reflects c ↔ (c ∈ active ↔ c ∈ s.registry.channels) :=
  reflects_iff_of_replayed (Or.inr hphase)

/-- An announced channel goes from those that are left to those that are done. -/
theorem reflects_of_announce {d : String} {todo active : List String}
    (hphase : s.phase = .announcing todo active) (htodo : d ∈ todo) (h : s.Reflects c) :
    { s with phase := .announcing (todo.erase d) (d :: active) }.Reflects c := by
  intro _
  have hold := h (by simp [hphase, Phase.isUp])
  simp only [announced, unannounced, hphase] at hold
  rw [← hold]
  by_cases hd : c = d
  · simp [announced, hd, htodo]
  · simp [announced, unannounced, hd, List.mem_erase_of_ne hd]

theorem reflects_of_serve {active : List String} (hphase : s.phase = .announcing [] active)
    (h : s.Reflects c) : { s with phase := .serving active }.Reflects c :=
  (reflects_serving_iff rfl).2 ((reflects_iff_of_replayed (Or.inl hphase)).1 h)

theorem Settled.same (h : Settled c s)
    (hcalls : s'.calls.filter (Command.isOn c) = s.calls.filter (Command.isOn c))
    (hqueue : s'.queue = s.queue)
    (hregistry : c ∈ s'.registry.channels ↔ c ∈ s.registry.channels)
    (hsocket : s.Reflects c → s'.Reflects c) : Settled c s' := by
  have hasked :
      Command.lastOn c (s'.queue ++ s'.calls) = Command.lastOn c (s.queue ++ s.calls) := by
    simp only [Command.lastOn, List.filter_append, hcalls, hqueue]
  refine ⟨by rw [hcalls]; exact h.alone, fun command hlast => ?_, fun hlast => ?_⟩
  · rw [hregistry]
    exact h.asked command (hasked ▸ hlast)
  · exact hsocket (h.socket (hasked ▸ hlast))

/-- A call that begins on the channel has the last word. -/
theorem Settled.call (command : Command) (hon : command.isOn c = true)
    (hidle : s.isCalledOn c = false) (hcalls : s'.calls = s.calls ++ [command])
    (htells : command = .subscribe c ↔ c ∈ s'.registry.channels) : Settled c s' := by
  have hnone := filter_calls_of_isCalledOn hidle
  have hlast : Command.lastOn c (s'.queue ++ s'.calls) = some command := by
    simp [Command.lastOn, hcalls, hnone, hon]
  refine ⟨by simp [hcalls, hnone, hon], fun other h => ?_, fun h => ?_⟩
  · obtain rfl : command = other := Option.some.inj (hlast.symm.trans h)
    exact htells
  · simp [hlast] at h

/-- A call that begins changes what is registered on its own channel only. -/
theorem Settled.enrolled {d : String} (command : Command) (h : Settled c s)
    (hon : command.isOn c = (d == c)) (hidle : d = c → s.isCalledOn c = false)
    (hcalls : s'.calls = s.calls ++ [command]) (hqueue : s'.queue = s.queue)
    (hphase : s'.phase = s.phase)
    (hothers : c ≠ d → (c ∈ s'.registry.channels ↔ c ∈ s.registry.channels))
    (htells : command = .subscribe d ↔ d ∈ s'.registry.channels) : Settled c s' := by
  by_cases hd : d = c
  · subst hd
    exact Settled.call command (by simp [hon]) (hidle rfl) hcalls htells
  · have hregistry := hothers (Ne.symm hd)
    exact h.same (by simp [hcalls, hon, hd]) hqueue hregistry (reflects_of_phase hphase hregistry)

/-- Moving a command into the queue keeps the commands on the channel in their order, since no other
call on it is under way. -/
theorem filter_queued {i : Nat} {command : Command} (hcall : s.calls[i]? = some command)
    (halone : (s.calls.filter (Command.isOn c)).length ≤ 1) :
    (s.queue ++ [command] ++ s.calls.eraseIdx i).filter (Command.isOn c) =
      (s.queue ++ s.calls).filter (Command.isOn c) ∧
    ((s.calls.eraseIdx i).filter (Command.isOn c)).length ≤ 1 := by
  obtain ⟨before, after, hcalls, herase⟩ := split_at_call hcall
  rw [herase]
  rw [hcalls] at halone ⊢
  by_cases hon : command.isOn c = true
  · simp only [List.filter_append, List.filter_cons_of_pos hon, List.length_append,
      List.length_cons] at halone
    have hbefore : before.filter (Command.isOn c) = [] := List.eq_nil_of_length_eq_zero (by omega)
    have hafter : after.filter (Command.isOn c) = [] := List.eq_nil_of_length_eq_zero (by omega)
    simp [hon, hbefore, hafter]
  · simpa [hon] using halone

theorem Settled.queued {i : Nat} {command : Command} (h : Settled c s)
    (hcall : s.calls[i]? = some command) :
    Settled c { s with calls := s.calls.eraseIdx i, queue := s.queue ++ [command] } := by
  obtain ⟨hfilter, halone⟩ := filter_queued hcall h.alone
  have hlast : Command.lastOn c (s.queue ++ [command] ++ s.calls.eraseIdx i) =
      Command.lastOn c (s.queue ++ s.calls) := by
    rw [Command.lastOn, hfilter, Command.lastOn]
  exact ⟨halone, fun other hother => h.asked other (hlast ▸ hother),
    fun hnone => h.socket (hlast ▸ hnone)⟩

/-- Only the handling of the last command on the channel makes the socket answerable for it, and then
the command and the registry say the same. -/
theorem Settled.handled {command : Command} {rest : List Command} (h : Settled c s)
    (hqueue : s.queue = command :: rest) (hrest : s'.queue = rest) (hcalls : s'.calls = s.calls)
    (hregistry : s'.registry = s.registry)
    (hother : command.isOn c = false → s.Reflects c → s'.Reflects c)
    (hon : command.isOn c = true → (command = .subscribe c ↔ c ∈ s'.registry.channels) →
      s'.Reflects c) : Settled c s' := by
  have halone : (s'.calls.filter (Command.isOn c)).length ≤ 1 := by rw [hcalls]; exact h.alone
  have hasked := h.asked
  have hsocket := h.socket
  rw [← hcalls, ← hregistry, hqueue, ← hrest, List.cons_append] at hasked
  rw [← hcalls, hqueue, ← hrest, List.cons_append] at hsocket
  by_cases hc : command.isOn c = true
  · simp only [Command.lastOn, List.filter_cons_of_pos hc, List.getLast?_cons] at hasked
    refine ⟨halone, fun other hlast => ?_, fun hlast => hon hc ?_⟩
    · rw [Command.lastOn] at hlast
      exact hasked other (by rw [hlast, Option.getD_some])
    · rw [Command.lastOn] at hlast
      exact hasked command (by rw [hlast, Option.getD_none])
  · simp only [Command.lastOn, List.filter_cons_of_neg hc] at hasked hsocket
    exact ⟨halone, hasked, fun hlast => hother (by simpa using hc) (hsocket hlast)⟩

/-- A command on the channel `d` announces it or leaves it, and no other channel. -/
theorem Settled.handled_on {d : String} {command : Command} {active active' : List String}
    {rest : List Command} (h : Settled c s) (hphase : s.phase = .serving active)
    (hphase' : s'.phase = .serving active') (hqueue : s.queue = command :: rest)
    (hrest : s'.queue = rest) (hcalls : s'.calls = s.calls) (hregistry : s'.registry = s.registry)
    (hon : command.isOn c = (d == c)) (hothers : c ≠ d → (c ∈ active' ↔ c ∈ active))
    (htells : command = .subscribe d ↔ d ∈ active') : Settled c s' := by
  refine h.handled hqueue hrest hcalls hregistry (fun hoff hold => ?_) fun hcommand hregistered => ?_
  · have hd : c ≠ d := by
      rintro rfl
      simp [hon] at hoff
    rw [reflects_serving_iff hphase] at hold
    rw [reflects_serving_iff hphase', hothers hd, hregistry]
    exact hold
  · obtain rfl : d = c := by simpa [hon] using hcommand
    exact (reflects_serving_iff hphase').2 (htells.symm.trans hregistered)

theorem Settled.handled_insert {ticket : Nat} {d : String} {points : List Datapoint}
    {rest : List Command} (h : Settled c s) (hqueue : s.queue = .insert ticket d points :: rest)
    (hrest : s'.queue = rest) (hcalls : s'.calls = s.calls) (hregistry : s'.registry = s.registry)
    (hphase : s'.phase = s.phase) : Settled c s' := by
  refine h.handled hqueue hrest hcalls hregistry (fun _ => ?_) fun hon => by cases hon
  exact reflects_of_phase hphase (by rw [hregistry])

theorem settled_of_move (hmove : Move s e s' out) (halive : s'.phase ≠ .ended)
    (hapart : e.calledOn? = some c → s.isCalledOn c = false) (h : Settled c s) : Settled c s' := by
  cases hmove with
  | @subscribe d k hheld =>
    refine h.enrolled (.subscribe d) rfl (fun hd => hapart (congrArg some hd)) rfl rfl rfl
      (fun hd => ?_) (iff_of_true rfl ?_)
    · simp [Registry.mem_channels_add, hd]
    · simp [Registry.mem_channels_add]
  | @unsubscribe d hheld =>
    refine h.enrolled (.unsubscribe d) rfl (fun hd => hapart (congrArg some hd)) rfl rfl rfl
      (fun hd => ?_) (iff_of_false (by simp) ?_)
    · simp [Registry.mem_channels_remove, hd]
    · simp [Registry.mem_channels_remove]
  | insert hheld hstate => exact h.same (by simp [Command.isOn]) rfl Iff.rfl id
  | insertOffline hheld hstate => exact h.same rfl rfl Iff.rfl id
  | disconnect hheld => exact h.same (by simp [Command.isOn]) rfl Iff.rfl id
  | queued hcall hphase hroom => exact h.queued hcall
  | declinedSubscribe hcall hphase => exact absurd hphase halive
  | declinedInsert hcall hphase => exact absurd hphase halive
  | declinedUnsubscribe hcall hphase => exact absurd hphase halive
  | declinedDisconnect hcall hphase => exact absurd hphase halive
  | giveUp hawaits => exact h.same rfl rfl Iff.rfl id
  | dropHandles hheld hidle => exact h.same rfl rfl Iff.rfl id
  | dial hdials => exact h.same rfl rfl Iff.rfl fun _ hup => by simp [Phase.isUp] at hup
  | opened hphase =>
    refine h.same rfl rfl Iff.rfl fun _ _ => ?_
    simp [announced, unannounced]
  | wait hfails hon hleft => exact h.same rfl rfl Iff.rfl fun _ hup => by simp [Phase.isUp] at hup
  | fail hfails hover => exact absurd rfl halive
  | lookUp hphase =>
    refine h.same rfl rfl Iff.rfl fun _ _ => ?_
    simp [announced, unannounced]
  | announce hphase htodo => exact h.same rfl rfl Iff.rfl (reflects_of_announce hphase htodo)
  | serve hphase hping => exact h.same rfl rfl Iff.rfl (reflects_of_serve hphase)
  | crash hphase hping => exact absurd rfl halive
  | handleKnown hphase hqueue hactive =>
    exact h.handled_on hphase hphase hqueue rfl rfl rfl rfl (fun _ => Iff.rfl)
      (iff_of_true rfl hactive)
  | handleSubscribe hphase hqueue hactive =>
    exact h.handled_on hphase rfl hqueue rfl rfl rfl rfl (fun hd => by simp [hd])
      (iff_of_true rfl List.mem_cons_self)
  | handleUnsubscribe hphase hqueue =>
    exact h.handled_on hphase rfl hqueue rfl rfl rfl rfl (fun hd => by simp [hd])
      (iff_of_false (by simp) (by simp))
  | handleStale hphase hqueue hgone => exact h.handled_insert hqueue rfl rfl rfl rfl
  | handleInsert hphase hqueue hgone => exact h.handled_insert hqueue rfl rfl rfl rfl
  | handleUnsent hphase hqueue hgone => exact h.handled_insert hqueue rfl rfl rfl rfl
  | handleDisconnect hphase hqueue => exact absurd rfl halive
  | receive hphase => exact h
  | tick hphase => exact h
  | drain hphase hqueue hheld => exact absurd rfl halive

theorem callsApart_cons_iff {m : Client κ} (hstep : s.step e = some (m, out)) :
    s.callsApart (e :: es) = true ↔
      (∀ c, e.calledOn? = some c → s.isCalledOn c = false) ∧ m.callsApart es = true := by
  cases h : e.calledOn? <;> simp [callsApart, hstep, h]

theorem callsApart_concat {m : Client κ} (hrun : s.run es = some (m, out))
    (h : s.callsApart (es ++ [e]) = true) :
    s.callsApart es = true ∧ ∀ c, e.calledOn? = some c → m.isCalledOn c = false := by
  induction es generalizing s out with
  | nil =>
    obtain ⟨rfl, -⟩ := runSteps_nil_iff.1 hrun
    refine ⟨rfl, fun c hc => ?_⟩
    simp only [List.nil_append, callsApart, hc, Option.any_some, Bool.and_eq_true,
      Bool.not_eq_true'] at h
    exact h.1
  | cons first es ih =>
    obtain ⟨n, before, after, hmove, hes, rfl⟩ := run_cons_iff.1 hrun
    obtain ⟨hfirst, hrest⟩ := (callsApart_cons_iff (step_of_move hmove)).1 h
    obtain ⟨hes, hlast⟩ := ih hes hrest
    exact ⟨(callsApart_cons_iff (step_of_move hmove)).2 ⟨hfirst, hes⟩, hlast⟩

theorem settled_of_run {policy : ReconnectPolicy} (hrun : (connect policy).run es = some (s, out))
    (hapart : (connect policy).callsApart es = true) (halive : s.phase ≠ .ended) : Settled c s := by
  revert hapart halive
  refine run_induction (P := fun es s _ => (connect policy).callsApart es = true →
    s.phase ≠ .ended → Settled c s) ?_ ?_ hrun
  · intro _ _
    exact ⟨by simp [connect], by simp [connect, Command.lastOn], fun _ => by
      simp [Reflects, connect, Phase.isUp]⟩
  · intro es s out e s' last hes ih hmove hapart halive
    obtain ⟨hbefore, hnow⟩ := callsApart_concat hes hapart
    exact settled_of_move hmove halive (hnow c) (ih hbefore (not_ended_of_move hmove halive))

theorem hear_of_move {told : List String} (hmove : Move s e s' out) (hup : s'.phase.isUp = true)
    (htaken : e.missed = false)
    (htold : e.opens = false → s.phase.isUp = true → told = s.announced) :
    out.foldl Effect.hear told = s'.announced := by
  cases hmove with
  | dial hdials => simp [Phase.isUp] at hup
  | wait hfails hon hleft => simp [Phase.isUp] at hup
  | fail hfails hover => simp [Phase.isUp] at hup
  | @receive frame active hphase =>
    rw [← htold rfl hup]
    rcases receive_cases s frame with h | ⟨_, h⟩ | ⟨_, _, h⟩ <;> simp [h, Effect.hear]
  | @tick taken active hphase =>
    rw [← htold rfl hup]
    cases taken <;> rfl
  | _ => simp_all [Phase.isUp, Event.missed, Event.opens, Effect.hear, announced]

/-- The server hears what the loop has announced, unless the socket failed to take a frame. -/
theorem heard_eq_announced {policy : ReconnectPolicy}
    (hrun : (connect policy).run es = some (s, out))
    (htaken : ∀ e ∈ thisSocket es, e.missed = false) (hup : s.phase.isUp = true) :
    heard out = s.announced := by
  revert htaken hup
  refine run_induction (P := fun es s out => (∀ e ∈ thisSocket es, e.missed = false) →
    s.phase.isUp = true → heard out = s.announced) ?_ ?_ hrun
  · simp [connect, Phase.isUp]
  · intro es s out e s' last _ ih hmove htaken hup
    rw [heard, List.foldl_append]
    by_cases hopens : e.opens = true
    · have hmissed : e.missed = false := by cases e <;> simp_all [Event.opens, Event.missed]
      exact hear_of_move hmove hup hmissed (by simp [hopens])
    · rw [thisSocket, List.rtakeWhile_concat_pos _ _ _ (by simpa using hopens)] at htaken
      refine hear_of_move hmove hup (htaken e (by simp)) fun _ hold => ?_
      exact ih (fun e he => htaken e (List.mem_append_left _ he)) hold

/-- Whatever calls, drops, reconnects, replays and commands have come before: on a channel without a
call under way the last queued command says what the registry says, and without one so does the set
of announced channels once the replay is over. So with nothing queued or called, what the server has
heard, and the replay has yet to announce, is what is registered. -/
theorem subscriptions_converge {policy : ReconnectPolicy}
    (hrun : (connect policy).run es = some (s, out))
    (hapart : (connect policy).callsApart es = true) (halive : s.phase ≠ .ended) :
    (∀ c, s.isCalledOn c = false →
      (∀ command, Command.lastOn c s.queue = some command →
        (command = .subscribe c ↔ c ∈ s.registry.channels)) ∧
      (Command.lastOn c s.queue = none → ∀ active, s.Replayed active →
        (c ∈ active ↔ c ∈ s.registry.channels))) ∧
    (s.state = .connected → s.queue = [] → (∀ c, s.isCalledOn c = false) →
      (∀ e ∈ thisSocket es, e.missed = false) →
      (∀ c, c ∈ heard out ∨ c ∈ s.unannounced ↔ c ∈ s.registry.channels) ∧
      ∀ active, s.Replayed active → ∀ c, c ∈ heard out ↔ c ∈ s.registry.channels) := by
  have hlast : ∀ c, s.isCalledOn c = false →
      Command.lastOn c (s.queue ++ s.calls) = Command.lastOn c s.queue := by
    intro c hidle
    simp [Command.lastOn, filter_calls_of_isCalledOn hidle]
  have hsettled := fun c => settled_of_run (c := c) hrun hapart halive
  refine ⟨fun c hidle => ⟨fun command h => ?_, fun h active hreplayed => ?_⟩,
    fun hstate hqueue hidle htaken => ?_⟩
  · exact (hsettled c).asked command ((hlast c hidle).trans h)
  · exact (reflects_iff_of_replayed hreplayed).1 ((hsettled c).socket ((hlast c hidle).trans h))
  · have hup := (connected_iff_isUp hrun halive).1 hstate
    rw [heard_eq_announced hrun htaken hup]
    have hall : ∀ c, c ∈ s.announced ∨ c ∈ s.unannounced ↔ c ∈ s.registry.channels := fun c =>
      (hsettled c).socket ((hlast c (hidle c)).trans (by simp [Command.lastOn, hqueue])) hup
    refine ⟨hall, fun active hreplayed c => ?_⟩
    rcases hreplayed with hphase | hphase
    · simpa [unannounced, hphase] using hall c
    · simpa [unannounced, hphase] using hall c

/-- Two channels, a loss with a command still queued, and a replay that comes before it. -/
def outage : List (Event Nat) :=
  [.start, .opened, .recall, .serve, .callSubscribe "a" 1, .callSubscribe "b" 2, .enqueue 1,
    .enqueue 0, .handle true, .lost, .elapsed, .callUnsubscribe "b", .opened, .recall, .enqueue 0,
    .announce "a" true, .serve, .handle true, .handle true]

theorem subscriptions_converge_outage : ∃ s out, (connect {}).run outage = some (s, out) ∧
    (connect {}).callsApart outage = true ∧ s.phase ≠ .ended ∧
    (∀ c, s.isCalledOn c = false) ∧ (∀ e ∈ thisSocket outage, e.missed = false) ∧
    heard out = ["a"] ∧ ∀ c, c ∈ heard out ↔ c ∈ s.registry.channels := by
  have hrun : (connect {}).run outage = some (_, _) := rfl
  have hsent : ∀ e ∈ thisSocket outage, e.missed = false := by decide
  refine ⟨_, _, hrun, rfl, by simp, fun _ => rfl, hsent, rfl, ?_⟩
  have hconverged := (subscriptions_converge hrun rfl (by simp)).2 rfl rfl (fun _ => rfl) hsent
  exact hconverged.2 _ (Or.inr rfl)

end Client
end SeriesClient.Push
