import SeriesClient.Proofs.Push.Convergence

/-! How the loop goes about getting a connection. Between two sockets it climbs a ladder: an attempt
is announced, waited for and made, and then the next one, until the policy allows no more and the loop
gives up. Where the loop stands tells how far up the ladder it is, and a run of the loop is one prefix
of the ladder after another. -/

namespace SeriesClient

/-- How many attempts are made in a row to renew a connection. -/
def ReconnectPolicy.allowance (policy : ReconnectPolicy) : Nat :=
  if policy.enabled then policy.maxAttempts else 0

namespace Push

variable {κ : Type}

def Effect.connects : Effect κ → Bool
  | .entered .connected => true
  | _ => false

def Effect.paces : Effect κ → Bool
  | .dialed | .waits _ | .entered (.reconnecting _) | .entered .error => true
  | _ => false

/-- A run cut where a connection came about, and what the loop did for one in between. -/
def stretches (out : List (Effect κ)) : List (List (Effect κ)) :=
  (out.splitOnP Effect.connects).map (·.filter Effect.paces)

def delays (out : List (Effect κ)) : List Duration :=
  out.filterMap fun
    | .waits delay => some delay
    | _ => none

/-- An attempt is announced, waited for and made. -/
def rung (policy : ReconnectPolicy) (n : Nat) : List (Effect κ) :=
  [.entered (.reconnecting n), .waits (policy.delay n), .dialed]

def climb (policy : ReconnectPolicy) (n : Nat) : List (Effect κ) :=
  (List.range n).flatMap (rung policy)

def footing (first : Bool) : List (Effect κ) := if first then [.dialed] else []

/-- All that the loop does if no connection comes about. -/
def ladder (policy : ReconnectPolicy) (first : Bool) : List (Effect κ) :=
  footing first ++ climb policy policy.allowance ++ [.entered .error]

def Event.setsBack : Event κ → Bool
  | .refused | .lost => true
  | _ => false

/-- The setbacks since the last connection came about. -/
def setbacks (es : List (Event κ)) : List (Event κ) := (thisSocket es).filter Event.setsBack

/-- The setbacks in a row at the last of which the loop gives up. -/
def tolerated (policy : ReconnectPolicy) (first : Bool) : List (Event κ) :=
  (if first then .refused else .lost) :: List.replicate policy.allowance .refused

section
variable {policy : ReconnectPolicy} {first : Bool} {n m : Nat}

theorem climb_succ : (climb policy (n + 1) : List (Effect κ)) = climb policy n ++ rung policy n := by
  simp [climb, List.range_succ]

theorem climb_mono (h : n ≤ m) : (climb policy n : List (Effect κ)) <+: climb policy m := by
  induction m, h using Nat.le_induction with
  | base => exact List.prefix_refl _
  | succ m _ ih =>
    rw [climb_succ]
    exact ih.trans (List.prefix_append _ _)

theorem climb_le_ladder (h : n ≤ policy.allowance) :
    footing first ++ climb policy n <+: (ladder policy first : List (Effect κ)) :=
  ((List.prefix_append_right_inj _).2 (climb_mono h)).trans (List.prefix_append _ _)

/-- What has been climbed, other than nothing at all, ends with an attempt. -/
theorem getLast?_climb (h : first = true ∨ 0 < n) :
    (footing first ++ climb policy n : List (Effect κ)).getLast? = some .dialed := by
  cases n with
  | zero =>
    obtain rfl : first = true := by simpa using h
    rfl
  | succ n => simp [climb_succ, rung]

theorem delays_climb : (delays (footing first ++ climb policy n : List (Effect κ))).length = n := by
  induction n with
  | zero => cases first <;> rfl
  | succ n ih =>
    rw [climb_succ, ← List.append_assoc, delays, List.filterMap_append, List.length_append, ← delays,
      ih]
    rfl

theorem error_notMem_climb :
    (.entered .error : Effect κ) ∉ footing first ++ climb policy n := by
  cases first <;> simp [footing, climb, rung]

theorem length_tolerated :
    (tolerated policy first : List (Event κ)).length = policy.allowance + 1 := by
  simp [tolerated]

theorem take_tolerated_succ (hn : n < policy.allowance + 1) (h : first = true ∨ 0 < n) :
    (tolerated policy first : List (Event κ)).take n ++ [.refused] =
      (tolerated policy first).take (n + 1) := by
  have hget : (tolerated policy first : List (Event κ))[n]? = some .refused := by
    cases n with
    | zero =>
      obtain rfl : first = true := by simpa using h
      rfl
    | succ n => simp [tolerated, Nat.lt_of_succ_lt_succ hn]
  rw [List.take_add_one, hget]
  rfl

theorem take_tolerated_ne (h : n ≤ policy.allowance) :
    (tolerated policy first : List (Event κ)).take n ≠ tolerated policy first := by
  intro heq
  have hlen := congrArg List.length heq
  simp only [List.length_take, length_tolerated] at hlen
  omega

end

section
variable {out last : List (Effect κ)} {past : List (List (Effect κ))} {current : List (Effect κ)}

theorem stretches_concat_connected :
    stretches (out ++ [.entered .connected]) = stretches out ++ [[]] := by
  rw [stretches, List.splitOnP_append_cons _ _ (by rfl), List.map_append]
  rfl

theorem stretches_cons {effect : Effect κ} :
    stretches (effect :: out) =
      if effect.connects then [] :: stretches out
      else (stretches out).modifyHead ([effect].filter Effect.paces ++ ·) := by
  rw [stretches, List.splitOnP_cons_eq_if_modifyHead]
  split_ifs with h
  · rfl
  · cases hout : out.splitOnP Effect.connects with
    | nil => simp [stretches, hout]
    | cons first rest => simp [stretches, hout, ← List.filter_append]

theorem exists_last_stretch (out : List (Effect κ)) :
    ∃ past current, stretches out = past ++ [current] := by
  have hne : stretches out ≠ [] := by simp [stretches, List.splitOnP_ne_nil]
  exact ⟨_, _, (List.dropLast_append_getLast hne).symm⟩

/-- Without a connection the last stretch grows. -/
theorem stretches_append (hlast : ∀ effect ∈ last, effect.connects = false)
    (h : stretches out = past ++ [current]) :
    stretches (out ++ last) = past ++ [current ++ last.filter Effect.paces] := by
  induction out generalizing past current with
  | nil =>
    obtain ⟨rfl, rfl⟩ :=
      List.append_singleton_inj.1 (show [] ++ [[]] = past ++ [current] from h)
    have hone : last.splitOnP Effect.connects = [last] := List.splitOnP_eq_singleton hlast
    simp [stretches, hone]
  | cons effect out ih =>
    obtain ⟨front, final, hout⟩ := exists_last_stretch out
    rw [stretches_cons, hout] at h
    rw [List.cons_append, stretches_cons, ih hout]
    split_ifs at h ⊢ with hconnects
    · obtain ⟨rfl, rfl⟩ :=
        List.append_singleton_inj.1 (show ([] :: front) ++ [final] = past ++ [current] from h)
      rfl
    · cases front with
      | nil =>
        obtain ⟨rfl, rfl⟩ := List.append_singleton_inj.1
          (show [] ++ [[effect].filter Effect.paces ++ final] = past ++ [current] from h)
        simp
      | cons stretch front =>
        obtain ⟨rfl, rfl⟩ := List.append_singleton_inj.1
          (show (([effect].filter Effect.paces ++ stretch) :: front) ++ [final] =
            past ++ [current] from h)
        rfl

end

/-- How far the loop has come in a stretch, by its phase and its count of attempts: what it has done
for a connection and which setbacks it had. -/
inductive Stands (policy : ReconnectPolicy) (first : Bool) :
    Phase → Nat → List (Effect κ) → List (Event κ) → Prop where
  | starting (h : first = true) : Stands policy first .starting 0 [] []
  | dialing {n : Nat} (hn : n ≤ policy.allowance) (h : first = true ∨ 0 < n) :
      Stands policy first .dialing n (footing first ++ climb policy n)
        ((tolerated policy first).take n)
  | waiting {n : Nat} (hn : n < policy.allowance) :
      Stands policy first (.waiting (policy.delay n)) (n + 1)
        (footing first ++ climb policy n ++
          [.entered (.reconnecting n), .waits (policy.delay n)])
        ((tolerated policy first).take (n + 1))
  | up {phase : Phase} (hup : phase.isUp = true) (h : first = false) :
      Stands policy first phase 0 [] []
  | gaveUp :
      Stands policy first .ended policy.allowance (ladder policy first) (tolerated policy first)
  /-- The loop came to its end on a socket. -/
  | left (h : first = false) : Stands policy first .ended 0 [] []

namespace Stands

variable {policy : ReconnectPolicy} {first : Bool} {phase : Phase} {n : Nat}
  {current : List (Effect κ)} {back : List (Event κ)}

theorem isPrefix (h : Stands policy first phase n current back) :
    current <+: ladder policy first ∧ back <+: tolerated policy first := by
  cases h with
  | starting => exact ⟨List.nil_prefix, List.nil_prefix⟩
  | dialing hn => exact ⟨climb_le_ladder hn, List.take_prefix _ _⟩
  | waiting hn =>
    refine ⟨List.IsPrefix.trans ?_ (climb_le_ladder hn), List.take_prefix _ _⟩
    rw [climb_succ, List.append_assoc]
    exact (List.prefix_append_right_inj _).2 ((List.prefix_append_right_inj _).2 ⟨[.dialed], rfl⟩)
  | up => exact ⟨List.nil_prefix, List.nil_prefix⟩
  | gaveUp => exact ⟨List.prefix_refl _, List.prefix_refl _⟩
  | left => exact ⟨List.nil_prefix, List.nil_prefix⟩

theorem le_maxAttempts (h : Stands policy first phase n current back) :
    n ≤ policy.maxAttempts := by
  have hle : n ≤ policy.allowance := by
    cases h with
    | dialing hn => exact hn
    | waiting hn => exact hn
    | gaveUp => exact Nat.le_refl _
    | _ => exact Nat.zero_le _
  refine hle.trans ?_
  unfold ReconnectPolicy.allowance
  split_ifs <;> omega

theorem error_mem_iff (h : Stands policy first phase n current back) :
    .entered .error ∈ current ↔ back = tolerated policy first := by
  cases h with
  | starting => simp [tolerated]
  | dialing hn => exact iff_of_false error_notMem_climb (take_tolerated_ne hn)
  | waiting hn =>
    refine iff_of_false (fun hmem => ?_) (take_tolerated_ne hn)
    rcases List.mem_append.1 hmem with hmem | hmem
    · exact error_notMem_climb hmem
    · simp at hmem
  | up => simp [tolerated]
  | gaveUp => simp [ladder]
  | left => simp [tolerated]

theorem waits_iff (h : Stands policy first phase n current back) (delay : Duration) :
    current.getLast? = some (.waits delay) ↔ phase = .waiting delay := by
  cases h with
  | starting => simp
  | dialing hn hfirst => simp [getLast?_climb hfirst]
  | waiting hn => simp
  | up hup => cases phase <;> simp_all [Phase.isUp]
  | gaveUp => simp [ladder]
  | left => simp

/-- Where the loop can fail it has made all the attempts it has announced, and one more setback
counts. -/
theorem of_fails {s : Client κ} {e : Event κ} (h : Stands policy first s.phase n current back)
    (hfails : s.Fails e) :
    n ≤ policy.allowance ∧ current = footing first ++ climb policy n ∧
      back ++ [e] = (tolerated policy first).take (n + 1) := by
  rcases Client.fails_iff.1 hfails with ⟨rfl, hphase⟩ | ⟨rfl, active, hphase⟩ <;> rw [hphase] at h
  · cases h with
    | dialing hn hfirst => exact ⟨hn, rfl, take_tolerated_succ (by omega) hfirst⟩
    | up hup => cases hup
  · cases h with
    | up hup hfirst =>
      subst hfirst
      exact ⟨Nat.zero_le _, rfl, rfl⟩

theorem of_dials {s : Client κ} {e : Event κ} (h : Stands policy first s.phase n current back)
    (hdials : s.Dials e) :
    Stands policy first .dialing n (current ++ [.dialed]) back := by
  rcases Client.dials_iff.1 hdials with ⟨-, hphase⟩ | ⟨-, delay, hphase⟩ <;> rw [hphase] at h
  · cases h with
    | starting hfirst =>
      subst hfirst
      exact .dialing (Nat.zero_le _) (.inl rfl)
    | up hup => cases hup
  · cases h with
    | @waiting n hn =>
      have hmade : footing first ++ climb policy n ++
          [.entered (.reconnecting n), .waits (policy.delay n)] ++ [.dialed] =
          (footing first ++ climb policy (n + 1) : List (Effect κ)) := by simp [climb_succ, rung]
      rw [hmade]
      exact .dialing hn (.inr (Nat.succ_pos n))
    | up hup => cases hup

theorem of_dialing (h : Stands policy first .dialing n current back) :
    current.getLast? = some .dialed ∧ .entered .error ∉ current := by
  cases h with
  | dialing hn hfirst => exact ⟨getLast?_climb hfirst, error_notMem_climb⟩
  | up hup => cases hup

theorem of_up (h : Stands policy first phase n current back) (hup : phase.isUp = true) :
    first = false ∧ n = 0 ∧ current = [] ∧ back = [] := by
  cases h with
  | up _ hfirst => exact ⟨hfirst, rfl, rfl, rfl⟩
  | _ => cases hup

end Stands

namespace Client

variable {s s' : Client κ} {e : Event κ} {es : List (Event κ)} {out : List (Effect κ)}

theorem setbacks_concat_opens (h : e.opens = true) : setbacks (es ++ [e]) = [] := by
  rw [setbacks, thisSocket, List.rtakeWhile_concat_neg _ _ _ (by simp [h])]
  rfl

theorem setbacks_concat (h : e.opens = false) :
    setbacks (es ++ [e]) = setbacks es ++ [e].filter Event.setsBack := by
  rw [setbacks, thisSocket, List.rtakeWhile_concat_pos _ _ _ (by simp [h]), List.filter_append]
  rfl

/-- A step that is no part of getting a connection, other than that it may end the loop on a
socket. -/
structure Idles (s s' : Client κ) (e : Event κ) (out : List (Effect κ)) : Prop where
  attempt : s'.attempt = s.attempt
  phase : s'.phase = s.phase ∨ s.phase.isUp = true ∧ (s'.phase.isUp = true ∨ s'.phase = .ended)
  setsBack : e.setsBack = false
  silent : ∀ effect ∈ out, effect.connects = false ∧ effect.paces = false

theorem silent_refusals {abandoned : List Nat} {queue : List Command} {effect : Effect κ}
    (h : effect ∈ queue.flatMap (refusal abandoned)) :
    effect.connects = false ∧ effect.paces = false := by
  obtain ⟨ticket, rfl⟩ := mem_refusals h
  exact ⟨rfl, rfl⟩

theorem silent_taken {taken : Bool} {message : Message} {effect : Effect κ}
    (h : effect ∈ if taken then [.sent message] else []) :
    effect.connects = false ∧ effect.paces = false := by
  cases taken <;> simp_all [Effect.connects, Effect.paces]

theorem silent_receive {frame : Frame} {effect : Effect κ} (h : effect ∈ s.receive frame) :
    effect.connects = false ∧ effect.paces = false := by
  rcases receive_cases s frame with hout | ⟨_, hout⟩ | ⟨_, _, hout⟩ <;>
    simp_all [Effect.connects, Effect.paces]

theorem idles_of_move (hmove : Move s e s' out) (hdials : ¬ s.Dials e) (hfails : ¬ s.Fails e)
    (hopens : e.opens = false) : s.Idles s' e out := by
  have hup : ∀ {phase : Phase}, s.phase = phase → phase.isUp = true → s.phase.isUp = true :=
    fun hphase hup => hphase ▸ hup
  cases hmove with
  | dial h => exact absurd h hdials
  | wait h _ _ => exact absurd h hfails
  | fail h _ => exact absurd h hfails
  | opened hphase => cases hopens
  | lookUp hphase => exact ⟨rfl, .inr ⟨hup hphase rfl, .inl rfl⟩, rfl, by simp⟩
  | announce hphase htodo =>
    exact ⟨rfl, .inr ⟨hup hphase rfl, .inl rfl⟩, rfl, fun _ => silent_taken⟩
  | serve hphase hping => exact ⟨rfl, .inr ⟨hup hphase rfl, .inl rfl⟩, rfl, by simp⟩
  | crash hphase hping =>
    exact ⟨rfl, .inr ⟨hup hphase rfl, .inr rfl⟩, rfl, fun _ => silent_refusals⟩
  | handleSubscribe hphase hqueue hactive =>
    refine ⟨rfl, .inr ⟨hup hphase rfl, .inl rfl⟩, rfl, fun effect h => ?_⟩
    rcases List.mem_cons.1 h with rfl | h
    · exact ⟨rfl, rfl⟩
    · exact silent_taken h
  | handleUnsubscribe hphase hqueue =>
    refine ⟨rfl, .inr ⟨hup hphase rfl, .inl rfl⟩, rfl, fun effect h => ?_⟩
    rcases List.mem_cons.1 h with rfl | h
    · exact ⟨rfl, rfl⟩
    · exact silent_taken h
  | handleDisconnect hphase hqueue =>
    refine ⟨rfl, .inr ⟨hup hphase rfl, .inr rfl⟩, rfl, fun effect h => ?_⟩
    rcases List.mem_cons.1 h with rfl | h
    · exact ⟨rfl, rfl⟩
    rcases List.mem_cons.1 h with rfl | h
    · exact ⟨rfl, rfl⟩
    · exact silent_refusals h
  | receive hphase => exact ⟨rfl, .inl rfl, rfl, fun _ => silent_receive⟩
  | drain hphase hqueue hheld => exact ⟨rfl, .inr ⟨hup hphase rfl, .inr rfl⟩, rfl, by simp⟩
  | _ => exact ⟨rfl, .inl rfl, rfl, by simp [Effect.connects, Effect.paces]⟩

theorem eq_of_move {r : Client κ × List (Effect κ)} (hmove : Move s e s' out)
    (hstep : s.step e = some r) : r = (s', out) :=
  Option.some.inj (hstep.symm.trans (step_of_move hmove))

theorem stands_of_retry {first : Bool} {current : List (Effect κ)} {back : List (Event κ)}
    (h : Stands s.policy first s.phase s.attempt current back) (hfails : s.Fails e) :
    (∀ effect ∈ s.retry.2, effect.connects = false) ∧
      Stands s.policy first s.retry.1.phase s.retry.1.attempt
        (current ++ s.retry.2.filter Effect.paces) (back ++ [e]) := by
  obtain ⟨hle, rfl, hback⟩ := h.of_fails hfails
  rw [hback]
  unfold ReconnectPolicy.allowance at hle
  unfold retry stopIn stop
  split_ifs with hover
  · have hall : s.attempt = s.policy.allowance := by
      unfold ReconnectPolicy.allowance
      cases hon : s.policy.enabled
      · simp_all
      · simp_all
        omega
    have hrefusals : (s.queue.flatMap (refusal (κ := κ) s.abandoned)).filter Effect.paces = [] :=
      List.filter_eq_nil_iff.2 fun effect hmem => by simp [(silent_refusals hmem).2]
    refine ⟨fun effect hmem => ?_, ?_⟩
    · rcases List.mem_cons.1 hmem with rfl | hmem
      · rfl
      · exact (silent_refusals hmem).1
    · rw [List.filter_cons_of_pos (by rfl), hrefusals, hall,
        List.take_of_length_le length_tolerated.le]
      exact .gaveUp
  · simp only [Bool.or_eq_true, Bool.not_eq_true', decide_eq_true_eq, not_or, Bool.not_eq_false,
      Nat.not_le] at hover
    refine ⟨by simp [Effect.connects], .waiting ?_⟩
    rw [ReconnectPolicy.allowance, if_pos hover.1]
    exact hover.2

/-- A step that brings no connection about takes the loop along the ladder. -/
theorem stands_of_move {first : Bool} {current : List (Effect κ)} {back : List (Event κ)}
    (hmove : Move s e s' out) (hopens : e.opens = false)
    (h : Stands s.policy first s.phase s.attempt current back) :
    (∀ effect ∈ out, effect.connects = false) ∧
      Stands s.policy first s'.phase s'.attempt (current ++ out.filter Effect.paces)
        (back ++ [e].filter Event.setsBack) := by
  by_cases hdials : s.Dials e
  · obtain ⟨rfl, rfl⟩ := Prod.mk.inj (eq_of_move hmove (step_of_dials hdials))
    have hback : [e].filter Event.setsBack = [] := by
      rcases dials_iff.1 hdials with ⟨rfl, -⟩ | ⟨rfl, -⟩ <;> rfl
    rw [hback, List.append_nil]
    exact ⟨by simp [Effect.connects], h.of_dials hdials⟩
  by_cases hfails : s.Fails e
  · obtain ⟨rfl, rfl⟩ := Prod.mk.inj (eq_of_move hmove (step_of_fails hfails))
    have hback : [e].filter Event.setsBack = [e] := by
      rcases fails_iff.1 hfails with ⟨rfl, -⟩ | ⟨rfl, -⟩ <;> rfl
    rw [hback]
    exact stands_of_retry h hfails
  have hidle := idles_of_move hmove hdials hfails hopens
  have hpaces : out.filter Effect.paces = [] :=
    List.filter_eq_nil_iff.2 fun effect hmem => by simp [(hidle.silent effect hmem).2]
  have hback : [e].filter Event.setsBack = [] := List.filter_cons_of_neg (by simp [hidle.setsBack])
  refine ⟨fun effect hmem => (hidle.silent effect hmem).1, ?_⟩
  rw [hidle.attempt, hpaces, hback, List.append_nil, List.append_nil]
  rcases hidle.phase with hphase | ⟨hup, hphase⟩
  · rwa [hphase]
  obtain ⟨hfirst, hattempt, rfl, rfl⟩ := h.of_up hup
  rw [hattempt]
  rcases hphase with hphase | hphase
  · exact .up hphase hfirst
  · rw [hphase]
    exact .left hfirst

/-- All the stretches of a run: the last one is where the loop stands, and those before it led to a
connection. -/
structure Paced (policy : ReconnectPolicy) (es : List (Event κ)) (s : Client κ)
    (out : List (Effect κ)) (past : List (List (Effect κ))) (current : List (Effect κ)) : Prop where
  cut : stretches out = past ++ [current]
  now : Stands policy past.isEmpty s.phase s.attempt current (setbacks es)
  before : ∀ i stretch, past[i]? = some stretch →
    stretch <+: ladder policy (i == 0) ∧ stretch.getLast? = some .dialed
  error : .entered .error ∈ out ↔ .entered .error ∈ current

section
variable {policy : ReconnectPolicy} {past : List (List (Effect κ))} {current : List (Effect κ)}

theorem Paced.of_stretch {i : Nat} {stretch : List (Effect κ)}
    (h : Paced policy es s out past current) (hi : (past ++ [current])[i]? = some stretch) :
    stretch <+: ladder policy (i == 0) ∧ (i < past.length → stretch.getLast? = some .dialed) := by
  rcases of_getElem?_concat hi with hi | ⟨rfl, rfl⟩
  · exact ⟨(h.before i stretch hi).1, fun _ => (h.before i stretch hi).2⟩
  · have hfirst : (past.length == 0) = past.isEmpty := by cases past <;> rfl
    rw [hfirst]
    exact ⟨h.now.isPrefix.1, fun hlt => absurd hlt (Nat.lt_irrefl _)⟩

theorem Paced.opened (h : Paced policy es s out past current) (hphase : s.phase = .dialing) :
    Paced policy (es ++ [.opened]) { s with phase := .opening, state := .connected, attempt := 0 }
      (out ++ [.entered .connected]) (past ++ [current]) [] := by
  have hnow := h.now
  rw [hphase] at hnow
  obtain ⟨hmade, hnone⟩ := hnow.of_dialing
  refine ⟨by rw [stretches_concat_connected, h.cut], ?_, fun i stretch hi => ?_, ?_⟩
  · rw [setbacks_concat_opens rfl]
    exact .up rfl (by simp)
  · refine ⟨(h.of_stretch hi).1, ?_⟩
    rcases of_getElem?_concat hi with hi | ⟨-, rfl⟩
    · exact (h.before i stretch hi).2
    · exact hmade
  · simp [h.error, hnone]

end

theorem paced_of_run {policy : ReconnectPolicy} (hrun : (connect policy).run es = some (s, out)) :
    ∃ past current, Paced policy es s out past current := by
  refine run_induction (P := fun es s out => ∃ past current, Paced policy es s out past current)
    ?_ ?_ hrun
  · exact ⟨[], [], rfl, .starting rfl, by simp, by simp⟩
  · rintro es s out e s' last hes ⟨past, current, h⟩ hmove
    obtain rfl := policy_of_run hes
    by_cases hopens : e.opens = true
    · cases hmove with
      | opened hphase => exact ⟨_, _, h.opened hphase⟩
      | dial hdials => rcases dials_iff.1 hdials with ⟨rfl, -⟩ | ⟨rfl, -⟩ <;> cases hopens
      | wait hfails _ _ => rcases fails_iff.1 hfails with ⟨rfl, -⟩ | ⟨rfl, -⟩ <;> cases hopens
      | fail hfails _ => rcases fails_iff.1 hfails with ⟨rfl, -⟩ | ⟨rfl, -⟩ <;> cases hopens
      | _ => cases hopens
    · rw [Bool.not_eq_true] at hopens
      obtain ⟨hconnects, hnow⟩ := stands_of_move hmove hopens h.now
      refine ⟨past, _, stretches_append hconnects h.cut, ?_, h.before, ?_⟩
      · rw [setbacks_concat hopens]
        exact hnow
      · simp only [List.mem_append, h.error, List.mem_filter, Effect.paces, and_true]

theorem fails_of_setsBack (hmove : Move s e s' out) (h : e.setsBack = true) : s.Fails e := by
  cases hmove with
  | dial hdials => rcases dials_iff.1 hdials with ⟨rfl, -⟩ | ⟨rfl, -⟩ <;> cases h
  | wait hfails _ _ => exact hfails
  | fail hfails _ => exact hfails
  | _ => cases h

/-- The loop gives up at a setback for which the policy allows no attempt, and nowhere else. -/
theorem gives_up_iff (hmove : Move s e s' out) :
    .entered .error ∈ out ↔
      e.setsBack = true ∧ (s.policy.enabled = false ∨ s.policy.maxAttempts ≤ s.attempt) := by
  by_cases hfails : s.Fails e
  · have hsetsBack : e.setsBack = true := by
      rcases fails_iff.1 hfails with ⟨rfl, -⟩ | ⟨rfl, -⟩ <;> rfl
    have hout : s.retry.2 = out := congrArg Prod.snd (eq_of_move hmove (step_of_fails hfails))
    rw [← hout, retry, stopIn]
    split_ifs with hover
    · simpa [hsetsBack] using hover
    · simpa [hsetsBack] using hover
  · refine iff_of_false (fun hmem => ?_) fun h => hfails (fails_of_setsBack hmove h.1)
    by_cases hdials : s.Dials e
    · have hout : s.dial.2 = out := congrArg Prod.snd (eq_of_move hmove (step_of_dials hdials))
      simp [← hout, dial] at hmem
    by_cases hopens : e.opens = true
    · cases hmove <;> simp_all [Event.opens]
    · rw [Bool.not_eq_true] at hopens
      cases ((idles_of_move hmove hdials hfails hopens).silent _ hmem).2

/-- The ways in which the loop comes to its end. -/
theorem ends_of_move (hmove : Move s e s' out) (halive : s.phase ≠ .ended)
    (hended : s'.phase = .ended) :
    .entered .error ∈ out ∨ .handled .disconnect ∈ out ∨ e = .drained ∧ s.held = false ∨
      e = .serve ∧ s.policy.pingInterval.total = 0 := by
  cases hmove <;> simp_all

/-- Between one connection, or the start, and the next the loop climbs the ladder: attempts that are
announced from 0 on, each within the limit and each waited for as long as the policy says and then
made. It gives up at the setback that comes when all of them are used up, whatever setbacks and
connections came before, and otherwise ends only on a socket. -/
theorem climbs_ladder {policy : ReconnectPolicy} (hrun : (connect policy).run es = some (s, out)) :
    (∀ i stretch, (stretches out)[i]? = some stretch →
      stretch <+: ladder policy (i == 0) ∧
      (i + 1 < (stretches out).length → stretch.getLast? = some .dialed)) ∧
    (∀ current, (stretches out).getLast? = some current →
      (∀ delay, current.getLast? = some (.waits delay) →
        ∃ s', s.step .elapsed = some (s', [.entered .connecting, .dialed])) ∧
      ∀ e s' last, s.step e = some (s', last) →
        (.entered .error ∈ last ↔ e.setsBack = true ∧
          (policy.enabled = false ∨ (delays current).length = policy.maxAttempts))) ∧
    (∀ e s' last, s.step e = some (s', last) → s.phase ≠ .ended → s'.phase = .ended →
      .entered .error ∈ last ∨ .handled .disconnect ∈ last ∨ e = .drained ∧ s.held = false ∨
        e = .serve ∧ policy.pingInterval.total = 0) ∧
    setbacks es <+: tolerated policy ((stretches out).length == 1) ∧
    (.entered .error ∈ out ↔ setbacks es = tolerated policy ((stretches out).length == 1)) ∧
    s.attempt ≤ policy.maxAttempts ∧
    (∀ n delay, policy.intervals[n]? = some delay → policy.delay n = delay) ∧
    (∀ n delay, policy.intervals.length ≤ n → policy.intervals.getLast? = some delay →
      policy.delay n = delay) ∧
    (policy.intervals = [] → ∀ n, policy.delay n = .ofSeconds 16) := by
  obtain ⟨past, current, h⟩ := paced_of_run hrun
  have hpolicy := policy_of_run hrun
  obtain rfl : s.policy = policy := hpolicy
  have hfirst : ((stretches out).length == 1) = past.isEmpty := by
    rw [h.cut]
    cases past <;> simp
  rw [hfirst]
  have hlast : (stretches out).getLast? = some current := by simp [h.cut]
  refine ⟨fun i stretch hi => ?_, fun current' hcurrent => ?_, ?_, h.now.isPrefix.2, ?_,
    h.now.le_maxAttempts, ?_, ?_, ?_⟩
  · rw [h.cut] at hi
    obtain ⟨hladder, hmade⟩ := h.of_stretch hi
    exact ⟨hladder, fun hlt => hmade (by simpa [h.cut] using hlt)⟩
  · obtain rfl : current = current' := Option.some.inj (hlast.symm.trans hcurrent)
    refine ⟨fun delay hwaits => ?_, fun e s' last hstep => ?_⟩
    · exact ⟨_, step_of_dials (e := .elapsed) ⟨delay, (h.now.waits_iff delay).1 hwaits⟩⟩
    · rw [gives_up_iff (move_of_step hstep)]
      refine and_congr_right fun hback => ?_
      obtain ⟨hle, rfl, -⟩ := h.now.of_fails (fails_of_setsBack (move_of_step hstep) hback)
      have hlimit := h.now.le_maxAttempts
      rw [delays_climb]
      exact or_congr_right (by omega)
  · exact fun e s' last hstep => ends_of_move (move_of_step hstep)
  · exact h.error.trans h.now.error_mem_iff
  · intro n delay hn
    simp [ReconnectPolicy.delay, hn]
  · intro n delay hn hlast
    simp [ReconnectPolicy.delay, List.getElem?_eq_none hn, hlast]
  · intro hnone n
    simp [ReconnectPolicy.delay, hnone]

def setbackTwice : List (Event Nat) :=
  [.start, .refused, .elapsed, .opened, .recall, .serve, .lost, .elapsed, .refused]

theorem climbs_ladder_setbackTwice : ∃ s out,
    (connect { maxAttempts := 1 }).run setbackTwice = some (s, out) ∧
    stretches out =
      [footing true ++ climb { maxAttempts := 1 } 1, ladder { maxAttempts := 1 } false] ∧
    .entered .error ∈ out := by
  have hrun : (connect { maxAttempts := 1 }).run setbackTwice = some (_, _) := rfl
  exact ⟨_, _, hrun, rfl, (climbs_ladder hrun).2.2.2.2.1.2 rfl⟩

end Client

end Push
end SeriesClient
