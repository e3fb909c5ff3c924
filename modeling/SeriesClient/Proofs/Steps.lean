import SeriesClient.Steps
import Mathlib.Data.List.Induction
import Mathlib.Tactic.Common

/-! Induction along runs. The step that is added last is the one looked at, since what a run brings about
is read from its beginning. -/

namespace SeriesClient

variable {σ ε ω : Type} {step : σ → ε → Option (σ × List ω)} {start s s' : σ} {e : ε}
  {es : List ε} {out : List ω}

theorem of_getElem?_concat {α : Type} {l : List α} {a b : α} {i : Nat}
    (h : (l ++ [a])[i]? = some b) : l[i]? = some b ∨ i = l.length ∧ b = a := by
  rw [List.getElem?_append] at h
  split_ifs at h with hlt
  · exact Or.inl h
  · obtain ⟨hlen, rfl⟩ : i - l.length = 0 ∧ a = b := by simpa [List.getElem?_singleton] using h
    exact Or.inr ⟨by omega, rfl⟩

theorem of_concat_eq {α : Type} {l before after : List α} {a b : α}
    (h : l ++ [a] = before ++ b :: after) :
    (before = l ∧ b = a ∧ after = []) ∨ ∃ mid, l = before ++ b :: mid ∧ after = mid ++ [a] := by
  cases after using List.reverseRecOn with
  | nil =>
    obtain ⟨hl, ha⟩ := List.append_inj' h rfl
    exact Or.inl ⟨hl.symm, (List.cons.inj ha).1.symm, rfl⟩
  | append_singleton mid last =>
    rw [← List.cons_append, ← List.append_assoc] at h
    obtain ⟨hl, ha⟩ := List.append_inj' h rfl
    exact Or.inr ⟨mid, hl, by rw [ha]⟩

/-- What holds at the start and is kept by each step holds after a run. -/
theorem runSteps_induction {P : List ε → σ → List ω → Prop} (nil : P [] start [])
    (snoc : ∀ {es s out e s' last}, runSteps step start es = some (s, out) → P es s out →
      step s e = some (s', last) → P (es ++ [e]) s' (out ++ last))
    (h : runSteps step start es = some (s, out)) : P es s out := by
  induction es using List.reverseRecOn generalizing s out with
  | nil =>
    obtain ⟨rfl, rfl⟩ := runSteps_nil_iff.1 h
    exact nil
  | append_singleton es e ih =>
    obtain ⟨m, first, last, hes, hstep, rfl⟩ := runSteps_concat_iff.1 h
    exact snoc hes (ih hes) hstep

end SeriesClient
