/-! Runs of a system that takes one step after another and notes what each brings about: how they are put
together. -/

namespace SeriesClient

variable {σ ε ω : Type} {step : σ → ε → Option (σ × List ω)} {s s' : σ} {e : ε} {es fs : List ε}
  {out : List ω}

/-- A run through events, with all that they bring about. -/
def runSteps (step : σ → ε → Option (σ × List ω)) (s : σ) : List ε → Option (σ × List ω)
  | [] => some (s, [])
  | e :: es => do
    let (s, first) ← step s e
    let (s, rest) ← runSteps step s es
    pure (s, first ++ rest)

theorem runSteps_nil_iff : runSteps step s [] = some (s', out) ↔ s = s' ∧ out = [] := by
  simp [runSteps, eq_comm]

theorem runSteps_cons_iff :
    runSteps step s (e :: es) = some (s', out) ↔
      ∃ m first rest, step s e = some (m, first) ∧ runSteps step m es = some (s', rest) ∧
        out = first ++ rest := by
  simp only [runSteps, Option.bind_eq_bind, Option.bind_eq_some_iff, Option.pure_def,
    Option.some.injEq, Prod.mk.injEq, Prod.exists]
  constructor
  · rintro ⟨m, first, hstep, _, rest, hrest, rfl, rfl⟩
    exact ⟨m, first, rest, hstep, hrest, rfl⟩
  · rintro ⟨m, first, rest, hstep, hrest, rfl⟩
    exact ⟨m, first, hstep, s', rest, hrest, rfl, rfl⟩

theorem runSteps_append_iff :
    runSteps step s (es ++ fs) = some (s', out) ↔
      ∃ m first rest, runSteps step s es = some (m, first) ∧
        runSteps step m fs = some (s', rest) ∧ out = first ++ rest := by
  induction es generalizing s out with
  | nil =>
    constructor
    · intro h
      exact ⟨s, [], out, rfl, h, rfl⟩
    · rintro ⟨_, _, rest, hnil, hfs, rfl⟩
      obtain ⟨rfl, rfl⟩ := runSteps_nil_iff.1 hnil
      exact hfs
  | cons e es ih =>
    simp only [List.cons_append, runSteps_cons_iff, ih]
    constructor
    · rintro ⟨m, first, _, hstep, ⟨n, middle, rest, hes, hfs, rfl⟩, rfl⟩
      exact ⟨n, first ++ middle, rest, ⟨m, first, middle, hstep, hes, rfl⟩, hfs, by simp⟩
    · rintro ⟨n, _, rest, ⟨m, first, middle, hstep, hes, rfl⟩, hfs, rfl⟩
      exact ⟨m, first, middle ++ rest, hstep, ⟨n, middle, rest, hes, hfs, rfl⟩, by simp⟩

theorem runSteps_singleton_iff :
    runSteps step s [e] = some (s', out) ↔ step s e = some (s', out) := by
  rw [runSteps_cons_iff]
  constructor
  · rintro ⟨m, first, rest, hstep, hnil, rfl⟩
    obtain ⟨rfl, rfl⟩ := runSteps_nil_iff.1 hnil
    rwa [List.append_nil]
  · intro h
    exact ⟨s', out, [], h, rfl, (List.append_nil out).symm⟩

theorem runSteps_concat_iff :
    runSteps step s (es ++ [e]) = some (s', out) ↔
      ∃ m first last, runSteps step s es = some (m, first) ∧ step m e = some (s', last) ∧
        out = first ++ last := by
  simp only [runSteps_append_iff, runSteps_singleton_iff]

end SeriesClient
