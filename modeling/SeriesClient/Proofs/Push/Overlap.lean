import SeriesClient.Proofs.Push.Convergence
import SeriesClient.Proofs.Push.Delivery

/-! Calls that overlap on one channel. A call changes the registry in its first step and queues its
command in its second, and others may come between. So the call that was last to change the registry
need not be the one that was last to queue its command, and what the server is told follows the
second. They say the same just if they are of one kind, or if no command on the channel has been
handled since the replay, which told the server what was registered. -/

namespace SeriesClient.Push

variable {κ : Type}

def Command.Clear (c : String) (commands : List Command) : Prop :=
  ∀ command ∈ commands, command.isOn c = false

theorem Command.lastOn_eq_none_iff {c : String} {commands : List Command} :
    Command.lastOn c commands = none ↔ Command.Clear c commands := by
  simp [Command.lastOn, Command.Clear]

theorem Command.clear_append {c : String} {commands later : List Command} :
    Command.Clear c (commands ++ later) ↔ Command.Clear c commands ∧ Command.Clear c later :=
  List.forall_mem_append

theorem Command.clear_cons {c : String} {command : Command} {later : List Command} :
    Command.Clear c (command :: later) ↔ command.isOn c = false ∧ Command.Clear c later :=
  List.forall_mem_cons

theorem Command.lastOn_concat {c : String} {commands : List Command} {command : Command} :
    Command.lastOn c (commands ++ [command]) =
      if command.isOn c then some command else Command.lastOn c commands := by
  cases hon : command.isOn c <;> simp [Command.lastOn, hon]

theorem Command.lastOn_append_of_clear {c : String} {commands later : List Command}
    (h : Command.Clear c later) :
    Command.lastOn c (commands ++ later) = Command.lastOn c commands := by
  have hnone : later.filter (Command.isOn c) = [] :=
    List.filter_eq_nil_iff.2 fun command hcommand => by simp [h command hcommand]
  rw [Command.lastOn, List.filter_append, hnone, List.append_nil, ← Command.lastOn]

/-- The last of some commands on a channel is the last of all of them. -/
theorem Command.lastOn_of_suffix {c : String} {commands later : List Command} {command : Command}
    (h : later <:+ commands) (hlast : Command.lastOn c later = some command) :
    Command.lastOn c commands = some command := by
  obtain ⟨before, rfl⟩ := h
  rw [Command.lastOn, List.filter_append, List.getLast?_append, ← Command.lastOn, hlast]
  rfl

def queuedIn (out : List (Effect κ)) : List Command :=
  out.filterMap fun
    | .queued command => some command
    | _ => none

def handledIn (out : List (Effect κ)) : List Command :=
  out.filterMap fun
    | .handled command => some command
    | _ => none

def Effect.handle (done : List Command) : Effect κ → List Command
  | .entered .connected => []
  | .handled command => done ++ [command]
  | _ => done

def handledHere (out : List (Effect κ)) : List Command := out.foldl Effect.handle []

/-- The last frame on the channel that went out on the socket, after one more effect. -/
def Effect.tell (c : String) (told : Option Message) : Effect κ → Option Message
  | .entered .connected => none
  | .sent (.subscribe d) => if d = c then some (.subscribe d) else told
  | .sent (.unsubscribe d) => if d = c then some (.unsubscribe d) else told
  | _ => told

def lastFrame (c : String) (out : List (Effect κ)) : Option Message :=
  out.foldl (Effect.tell c) none

/-- A frame that goes out, if the socket takes it, handles nothing. -/
theorem foldl_handle_taken {taken : Bool} {message : Message} {done : List Command} :
    (if taken then [(.sent message : Effect κ)] else []).foldl Effect.handle done = done := by
  cases taken <;> rfl

theorem handledHere_suffix (out : List (Effect κ)) : handledHere out <:+ handledIn out := by
  induction out using List.reverseRecOn with
  | nil => exact List.suffix_refl _
  | append_singleton out effect ih =>
    rw [handledHere, List.foldl_append, ← handledHere, handledIn, List.filterMap_append,
      ← handledIn]
    obtain ⟨before, h⟩ := ih
    cases effect with
    | handled command => exact ⟨before, by simp [Effect.handle, ← h]⟩
    | entered state => cases state <;> simp [Effect.handle, ← h]
    | _ => exact ⟨before, by simpa [Effect.handle] using h⟩

/-- The server takes a channel to be subscribed just if the last frame on it says so. -/
theorem mem_heard_iff (c : String) (out : List (Effect κ)) :
    c ∈ heard out ↔ lastFrame c out = some (.subscribe c) := by
  induction out using List.reverseRecOn with
  | nil => simp [heard, lastFrame]
  | append_singleton out effect ih =>
    rw [heard, List.foldl_append, ← heard, lastFrame, List.foldl_append, ← lastFrame]
    cases effect with
    | sent message =>
      cases message with
      | subscribe d => by_cases hd : c = d <;> simp [Effect.hear, Effect.tell, hd, ih, Ne.symm]
      | unsubscribe d => by_cases hd : c = d <;> simp [Effect.hear, Effect.tell, hd, ih, Ne.symm]
      | insert d points => exact ih
    | entered state => cases state <;> simp [Effect.hear, Effect.tell, ih]
    | _ => exact ih

namespace Client

variable {c : String} {s s' : Client κ} {e : Event κ} {es : List (Event κ)}
  {out : List (Effect κ)} {done : List Command}

/-- The queue keeps the order of what is put into it, and gives up nothing while the loop lives. -/
theorem queue_of_move (hmove : Move s e s' out) (halive : s'.phase ≠ .ended) :
    handledIn out ++ s'.queue = s.queue ++ queuedIn out := by
  cases hmove with
  | fail hfails hover => exact absurd rfl halive
  | @receive frame active hphase =>
    rcases receive_cases s frame with h | ⟨_, h⟩ | ⟨_, _, h⟩ <;> simp [h, handledIn, queuedIn]
  | @announce d taken todo active hphase htodo => cases taken <;> simp [handledIn, queuedIn]
  | @tick taken active hphase => cases taken <;> simp [handledIn, queuedIn]
  | @handleSubscribe taken active d rest hphase hqueue hactive =>
    cases taken <;> simp [handledIn, queuedIn, hqueue]
  | @handleUnsubscribe taken active d rest hphase hqueue =>
    cases taken <;> simp [handledIn, queuedIn, hqueue]
  | _ => simp_all [handledIn, queuedIn]

theorem queuedIn_eq {policy : ReconnectPolicy} (hrun : (connect policy).run es = some (s, out))
    (halive : s.phase ≠ .ended) : queuedIn out = handledIn out ++ s.queue := by
  revert halive
  refine run_induction (P := fun _ s out => s.phase ≠ .ended →
    queuedIn out = handledIn out ++ s.queue) ?_ ?_ hrun
  · intro _
    rfl
  · intro es s out e s' last _ ih hmove halive
    calc queuedIn (out ++ last)
        = handledIn out ++ s.queue ++ queuedIn last := by
          rw [queuedIn, List.filterMap_append, ← queuedIn, ← queuedIn,
            ih (not_ended_of_move hmove halive)]
      _ = handledIn out ++ (handledIn last ++ s'.queue) := by
          rw [List.append_assoc, queue_of_move hmove halive]
      _ = handledIn (out ++ last) ++ s'.queue := by simp [handledIn]

/-- What the socket says of a channel, given the commands `done` that were handled on it. -/
structure Mirrors (c : String) (s : Client κ) (done : List Command) : Prop where
  fresh : s.phase.isUp = true → (∀ active, s.phase ≠ .serving active) → done = []
  follows : ∀ active command, s.phase = .serving active → Command.lastOn c done = some command →
    (c ∈ active ↔ command = .subscribe c)
  untouched : Command.Clear c (done ++ s.queue ++ s.calls) → s.Reflects c

theorem Mirrors.down (h : s.phase.isUp = false) : Mirrors c s done where
  fresh hup := by simp [h] at hup
  follows active _ hphase := by simp [hphase, Phase.isUp] at h
  untouched _ hup := by simp [h] at hup

theorem Mirrors.same (h : Mirrors c s done) (hphase : s'.phase = s.phase)
    (hclear : Command.Clear c (s'.queue ++ s'.calls) → Command.Clear c (s.queue ++ s.calls) ∧
      (c ∈ s'.registry.channels ↔ c ∈ s.registry.channels)) : Mirrors c s' done where
  fresh hup hserving := h.fresh (hphase ▸ hup) (hphase ▸ hserving)
  follows active command hs hlast := h.follows active command (hphase ▸ hs) hlast
  untouched hall := by
    rw [List.append_assoc, Command.clear_append] at hall
    obtain ⟨hold, hregistry⟩ := hclear hall.2
    refine reflects_of_phase hphase hregistry (h.untouched ?_)
    rw [List.append_assoc, Command.clear_append]
    exact ⟨hall.1, hold⟩

/-- A call that begins changes what is registered on its own channel only. -/
theorem Mirrors.call {command : Command} (h : Mirrors c s done) (hphase : s'.phase = s.phase)
    (hqueue : s'.queue = s.queue) (hcalls : s'.calls = s.calls ++ [command])
    (hregistry : command.isOn c = false → (c ∈ s'.registry.channels ↔ c ∈ s.registry.channels)) :
    Mirrors c s' done := by
  refine h.same hphase fun hall => ?_
  rw [hqueue, hcalls, ← List.append_assoc, Command.clear_append, Command.clear_cons] at hall
  exact ⟨hall.1, hregistry hall.2.1⟩

theorem Mirrors.handled {active active' : List String} {command : Command} {rest : List Command}
    (h : Mirrors c s done) (hphase : s.phase = .serving active)
    (hphase' : s'.phase = .serving active') (hqueue : s.queue = command :: rest)
    (hrest : s'.queue = rest) (hcalls : s'.calls = s.calls) (hregistry : s'.registry = s.registry)
    (hother : command.isOn c = false → (c ∈ active' ↔ c ∈ active))
    (hon : command.isOn c = true → (c ∈ active' ↔ command = .subscribe c)) :
    Mirrors c s' (done ++ [command]) where
  fresh _ hserving := absurd hphase' (hserving active')
  follows act last hs hlast := by
    obtain rfl : active' = act := by simpa [hphase'] using hs
    rw [Command.lastOn_concat] at hlast
    split_ifs at hlast with hc
    · obtain rfl := Option.some.inj hlast
      exact hon hc
    · rw [hother (by simpa using hc)]
      exact h.follows active last hphase hlast
  untouched hall := by
    rw [hrest, hcalls] at hall
    have hc : command.isOn c = false := hall command (by simp)
    rw [reflects_serving_iff hphase', hregistry, hother hc, ← reflects_serving_iff hphase]
    exact h.untouched (by simpa [hqueue] using hall)

/-- A socket on which nothing has been handled yet. -/
theorem Mirrors.unserved (hdone : done = []) (hphase : ∀ active, s.phase ≠ .serving active)
    (hreflects : Command.Clear c (s.queue ++ s.calls) → s.Reflects c) : Mirrors c s done where
  fresh _ _ := hdone
  follows active _ hs _ := absurd hs (hphase active)
  untouched hall := hreflects (by simpa [hdone] using hall)

theorem Mirrors.queued {i : Nat} {command : Command} (h : Mirrors c s done)
    (hcall : s.calls[i]? = some command) :
    Mirrors c { s with calls := s.calls.eraseIdx i, queue := s.queue ++ [command] } done := by
  obtain ⟨before, after, hcalls, herase⟩ := split_at_call hcall
  refine h.same rfl fun hall => ⟨?_, Iff.rfl⟩
  simp only [hcalls, Command.clear_append, Command.clear_cons]
  simp only [herase, Command.clear_append, Command.clear_cons] at hall
  exact ⟨hall.1.1, hall.2.1, hall.1.2.1, hall.2.2⟩

theorem mirrors_of_handle (taken : Bool) (hmove : Move s (.handle taken) s' out)
    (h : Mirrors c s done) : Mirrors c s' (out.foldl Effect.handle done) := by
  cases hmove with
  | dial hdials => exact hdials.elim
  | wait hfails _ _ => exact hfails.elim
  | fail hfails _ => exact hfails.elim
  | @handleKnown _ active d rest hphase hqueue hactive =>
    refine h.handled hphase hphase hqueue rfl rfl rfl (fun _ => Iff.rfl) fun hon => ?_
    obtain rfl : d = c := by simpa [Command.isOn] using hon
    exact iff_of_true hactive rfl
  | @handleSubscribe _ active d rest hphase hqueue hactive =>
    rw [List.foldl_cons, foldl_handle_taken]
    refine h.handled hphase rfl hqueue rfl rfl rfl (fun hoff => ?_) fun hon => ?_
    · have hd : d ≠ c := by simpa [Command.isOn] using hoff
      simp [Ne.symm hd]
    · obtain rfl : d = c := by simpa [Command.isOn] using hon
      simp
  | @handleUnsubscribe _ active d rest hphase hqueue =>
    rw [List.foldl_cons, foldl_handle_taken]
    refine h.handled hphase rfl hqueue rfl rfl rfl (fun hoff => ?_) fun hon => ?_
    · have hd : d ≠ c := by simpa [Command.isOn] using hoff
      simp [Ne.symm hd]
    · obtain rfl : d = c := by simpa [Command.isOn] using hon
      simp
  | handleStale hphase hqueue hgone =>
    exact h.handled hphase hphase hqueue rfl rfl rfl (fun _ => Iff.rfl) fun hon => by cases hon
  | handleInsert hphase hqueue hgone =>
    exact h.handled hphase hphase hqueue rfl rfl rfl (fun _ => Iff.rfl) fun hon => by cases hon
  | handleUnsent hphase hqueue hgone =>
    exact h.handled hphase hphase hqueue rfl rfl rfl (fun _ => Iff.rfl) fun hon => by cases hon
  | handleDisconnect hphase hqueue => exact Mirrors.down rfl

theorem mirrors_of_move (hmove : Move s e s' out) (h : Mirrors c s done) :
    Mirrors c s' (out.foldl Effect.handle done) := by
  cases hmove with
  | @subscribe d k hheld =>
    refine h.call rfl rfl rfl fun hoff => ?_
    have hd : d ≠ c := by simpa [Command.isOn] using hoff
    simp [Registry.mem_channels_add, Ne.symm hd]
  | @unsubscribe d hheld =>
    refine h.call rfl rfl rfl fun hoff => ?_
    have hd : d ≠ c := by simpa [Command.isOn] using hoff
    simp [Registry.mem_channels_remove, Ne.symm hd]
  | insert hheld hstate => exact h.call rfl rfl rfl fun _ => Iff.rfl
  | disconnect hheld => exact h.call rfl rfl rfl fun _ => Iff.rfl
  | queued hcall hphase hroom => exact h.queued hcall
  | opened hphase => exact .unserved rfl (by simp) fun _ _ => by simp [announced, unannounced]
  | lookUp hphase =>
    have hdone : done = [] := h.fresh (by simp [hphase, Phase.isUp]) (by simp [hphase])
    exact .unserved hdone (by simp) fun _ _ => by simp [announced, unannounced]
  | @announce d taken todo active hphase htodo =>
    have hdone : done = [] := h.fresh (by simp [hphase, Phase.isUp]) (by simp [hphase])
    rw [foldl_handle_taken]
    exact .unserved hdone (by simp) fun hall =>
      reflects_of_announce hphase htodo (h.untouched (by simpa [hdone] using hall))
  | serve hphase hping =>
    have hdone : done = [] := h.fresh (by simp [hphase, Phase.isUp]) (by simp [hphase])
    refine ⟨fun _ _ => hdone, fun active command _ hlast => ?_, fun hall => ?_⟩
    · simp [hdone, Command.lastOn] at hlast
    · exact reflects_of_serve hphase (h.untouched hall)
  | @handleKnown taken _ _ _ hphase hqueue hactive =>
    exact mirrors_of_handle taken (.handleKnown hphase hqueue hactive) h
  | @handleSubscribe taken _ _ _ hphase hqueue hactive =>
    exact mirrors_of_handle taken (.handleSubscribe hphase hqueue hactive) h
  | @handleUnsubscribe taken _ _ _ hphase hqueue =>
    exact mirrors_of_handle taken (.handleUnsubscribe hphase hqueue) h
  | @handleStale taken _ _ _ _ _ hphase hqueue hgone =>
    exact mirrors_of_handle taken (.handleStale hphase hqueue hgone) h
  | handleInsert hphase hqueue hgone =>
    exact mirrors_of_handle true (.handleInsert hphase hqueue hgone) h
  | handleUnsent hphase hqueue hgone =>
    exact mirrors_of_handle false (.handleUnsent hphase hqueue hgone) h
  | @receive frame active hphase =>
    rcases receive_cases s frame with hout | ⟨_, hout⟩ | ⟨_, _, hout⟩ <;>
      simpa [hout, Effect.handle] using h
  | @tick taken active hphase =>
    cases taken <;> exact h
  | insertOffline hheld hstate => exact h.same rfl fun hall => ⟨hall, Iff.rfl⟩
  | giveUp hawaits => exact h.same rfl fun hall => ⟨hall, Iff.rfl⟩
  | dropHandles hheld hidle => exact h.same rfl fun hall => ⟨hall, Iff.rfl⟩
  -- What is left goes without a socket.
  | _ => exact Mirrors.down (by simp_all [Phase.isUp])

theorem mirrors_of_run {policy : ReconnectPolicy} (hrun : (connect policy).run es = some (s, out)) :
    Mirrors c s (handledHere out) := by
  refine run_induction (P := fun _ s out => Mirrors c s (handledHere out)) (Mirrors.down rfl)
    (fun {es s out e s' last} _ ih hmove => ?_) hrun
  rw [handledHere, List.foldl_append, ← handledHere]
  exact mirrors_of_move hmove ih

/-- Calls on a channel have overlapped as they would, all have returned, and the loop has handled
what they queued. The registry and the last frame on the channel agree just if no command on it was
handled on this socket, or else the call that was last to queue its command and the one that was last
to change the registry are of one kind. -/
theorem last_frame_agrees_iff {policy : ReconnectPolicy} {active : List String}
    (hrun : (connect policy).run es = some (s, out)) (hreplayed : s.Replayed active)
    (hidle : s.isCalledOn c = false) (hqueue : Command.lastOn c s.queue = none)
    (htaken : ∀ e ∈ thisSocket es, e.missed = false) :
    ((s.registry.find? c).isSome = true ↔ lastFrame c out = some (.subscribe c)) ↔
      Command.lastOn c (handledHere out) = none ∨
      ((registeredAfter es c).isSome = true ↔
        Command.lastOn c (queuedIn out) = some (.subscribe c)) := by
  have halive : s.phase ≠ .ended := by rcases hreplayed with h | h <;> simp [h]
  have hup : s.phase.isUp = true := by rcases hreplayed with h | h <;> simp [h, Phase.isUp]
  have hactive : s.announced = active := by rcases hreplayed with h | h <;> simp [announced, h]
  have htold : lastFrame c out = some (.subscribe c) ↔ c ∈ active := by
    rw [← mem_heard_iff, heard_eq_announced hrun htaken hup, hactive]
  have hmirrors : Mirrors c s (handledHere out) := mirrors_of_run hrun
  have hclear : Command.Clear c s.queue := Command.lastOn_eq_none_iff.1 hqueue
  -- Either the socket still says what the replay told, or what the last command handled on it said.
  cases hdone : Command.lastOn c (handledHere out) with
  | none =>
    have hcalls : Command.Clear c s.calls := by simpa [isCalledOn, Command.Clear] using hidle
    have hreflects : s.Reflects c := hmirrors.untouched (by
      rw [Command.clear_append, Command.clear_append]
      exact ⟨⟨Command.lastOn_eq_none_iff.1 hdone, hclear⟩, hcalls⟩)
    rw [reflects_iff_of_replayed hreplayed, Registry.mem_channels_iff] at hreflects
    exact iff_of_true (htold.trans hreflects).symm (Or.inl rfl)
  | some command =>
    have hserving : s.phase = .serving active := by
      refine hreplayed.resolve_left fun hphase => ?_
      rw [hmirrors.fresh hup (by simp [hphase])] at hdone
      cases hdone
    have hlast : Command.lastOn c (queuedIn out) = some command := by
      rw [queuedIn_eq hrun halive, Command.lastOn_append_of_clear hclear]
      exact Command.lastOn_of_suffix (handledHere_suffix out) hdone
    rw [htold, hmirrors.follows active command hserving hdone, hlast,
      find?_eq_registeredAfter hrun halive]
    simp

/-- Two calls that overlap, the second of which is the first to queue its command. -/
def crossed (first second : Event Nat) : List (Event Nat) :=
  [.start, .opened, .recall, .serve, first, second, .enqueue 1, .enqueue 0, .handle true,
    .handle true]

/-- Of calls of one kind either may be the last. -/
theorem last_frame_agrees_iff_crossed : ∃ s out,
    (connect {}).run (crossed (.callSubscribe "a" 1) (.callSubscribe "a" 2)) = some (s, out) ∧
    s.Replayed ["a"] ∧ s.isCalledOn "a" = false ∧ Command.lastOn "a" s.queue = none ∧
    (∀ e ∈ thisSocket (crossed (.callSubscribe "a" 1) (.callSubscribe "a" 2)),
      e.missed = false) ∧
    s.registry.find? "a" = some 2 ∧ lastFrame "a" out = some (.subscribe "a") := by
  have hrun : (connect {}).run (crossed (.callSubscribe "a" 1) (.callSubscribe "a" 2)) =
    some (_, _) := rfl
  have htaken : ∀ e ∈ thisSocket (crossed (.callSubscribe "a" 1) (.callSubscribe "a" 2)),
      e.missed = false := by decide
  have hagrees := last_frame_agrees_iff (c := "a") hrun (Or.inr rfl) rfl rfl htaken
  refine ⟨_, _, hrun, Or.inr rfl, rfl, rfl, htaken, rfl, ?_⟩
  exact (hagrees.2 (Or.inr (iff_of_true rfl rfl))).1 rfl

/-- Of calls of two kinds it leaves a callback on a channel that the server has been told to stop,
or a channel that it has been told to feed and that nobody listens to. -/
theorem crossed_disagrees :
    (∃ s out, (connect {}).run (crossed (.callUnsubscribe "a") (.callSubscribe "a" 1)) =
        some (s, out) ∧
      s.state = .connected ∧ s.phase = .serving [] ∧ s.queue = [] ∧ s.calls = [] ∧
      queuedIn out = [.subscribe "a", .unsubscribe "a"] ∧ handledHere out = queuedIn out ∧
      s.registry.find? "a" = some 1 ∧ lastFrame "a" out = some (.unsubscribe "a")) ∧
    ∃ s out, (connect {}).run (crossed (.callSubscribe "a" 1) (.callUnsubscribe "a")) =
        some (s, out) ∧
      s.state = .connected ∧ s.phase = .serving ["a"] ∧ s.queue = [] ∧ s.calls = [] ∧
      queuedIn out = [.unsubscribe "a", .subscribe "a"] ∧ handledHere out = queuedIn out ∧
      s.registry.find? "a" = none ∧ lastFrame "a" out = some (.subscribe "a") :=
  ⟨⟨_, _, rfl, rfl, rfl, rfl, rfl, rfl, rfl, rfl, rfl⟩,
    ⟨_, _, rfl, rfl, rfl, rfl, rfl, rfl, rfl, rfl, rfl⟩⟩

end Client
end SeriesClient.Push
