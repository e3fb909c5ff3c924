import SeriesClient.Proofs.Query.Builder
import SeriesClient.Proofs.Decimal.Positional
import SeriesClient.Proofs.Decimal.Whole

/-! What the parameters of a query tell. A number is told from its text, and the range and the
transform from the parameters that they have their names on, so queries with the same parameters are
the same but for the ways to ask for a whole stream. -/

namespace SeriesClient.Query

theorem indexText_injective : Function.Injective indexText := by
  intro i j h
  exact Int64.toInt_inj.1 (Decimal.integerChars_injective (String.ofList_injective h))

theorem limitText_injective : Function.Injective limitText := by
  intro n m h
  exact UInt64.toNat_inj.1 (Decimal.digitChars_injective (String.ofList_injective h))

/-- NaN is one number here, and the two zeros are two. -/
theorem timeText_injective : Function.Injective timeText := by
  intro t t' h
  exact Decimal.Layout.text_injective ⟨fun _ => rfl, rfl⟩ (String.ofList_injective h)

namespace Range

variable {range range' : Range}

/-- A range in which the three ways to ask for the whole stream are one. -/
def canonical : Range → Range
  | fromStart => .byIndex 0 .newest
  | byTime none none none => .byIndex 0 .newest
  | range => range

theorem canonical_cases (range : Range) :
    (∃ first bound, range.canonical = .byIndex first bound) ∨
      ∃ start stop limit, range.canonical = .byTime start stop limit := by
  cases range with
  | fromStart => exact Or.inl ⟨_, _, rfl⟩
  | byIndex first bound => exact Or.inl ⟨_, _, rfl⟩
  | byTime start stop limit =>
    cases start <;> cases stop <;> cases limit <;> simp [canonical]

theorem rangeParameters_eq (range : Range) : rangeParameters range = range.canonical.parameters := by
  cases range with
  | fromStart => rfl
  | byIndex first bound => cases bound <;> rfl
  | byTime start stop limit => cases start <;> cases stop <;> cases limit <;> rfl

theorem lookup_byTime (start stop : Option Float) (limit : Option UInt64) :
    (parameters (.byTime start stop limit)).lookup "i1" = none ∧
    (parameters (.byTime start stop limit)).lookup "t1" = start.map timeText ∧
    (parameters (.byTime start stop limit)).lookup "t2" = stop.map timeText ∧
    (parameters (.byTime start stop limit)).lookup "limit" = limit.map limitText := by
  cases start <;> cases stop <;> cases limit <;> exact ⟨rfl, rfl, rfl, rfl⟩

theorem lookup_byIndex (first : Int64) (bound : Bound) :
    (parameters (.byIndex first bound)).lookup "i1" = some (indexText first) := by
  cases bound <;> rfl

/-- A range is told from the parameters that stand for it. -/
theorem canonical_of_parameters (h : range.canonical.parameters = range'.canonical.parameters) :
    range.canonical = range'.canonical := by
  rcases canonical_cases range with ⟨first, bound, hr⟩ | ⟨start, stop, limit, hr⟩
  · rcases canonical_cases range' with ⟨first', bound', hr'⟩ | ⟨start', stop', limit', hr'⟩
    · rw [hr, hr'] at h ⊢
      cases bound <;> cases bound' <;>
        simp [parameters, indexText_injective.eq_iff] at h ⊢ <;> exact h
    · rw [hr, hr'] at h
      have hfirst := congrArg (List.lookup "i1") h
      rw [lookup_byIndex, (lookup_byTime start' stop' limit').1] at hfirst
      cases hfirst
  · rcases canonical_cases range' with ⟨first', bound', hr'⟩ | ⟨start', stop', limit', hr'⟩
    · rw [hr, hr'] at h
      have hfirst := congrArg (List.lookup "i1") h
      rw [lookup_byIndex, (lookup_byTime start stop limit).1] at hfirst
      cases hfirst
    · rw [hr, hr'] at h ⊢
      obtain ⟨-, hstart, hstop, hlimit⟩ := lookup_byTime start stop limit
      obtain ⟨-, hstart', hstop', hlimit'⟩ := lookup_byTime start' stop' limit'
      rw [h] at hstart hstop hlimit
      rw [Option.map_injective timeText_injective (hstart.symm.trans hstart'),
        Option.map_injective timeText_injective (hstop.symm.trans hstop'),
        Option.map_injective limitText_injective (hlimit.symm.trans hlimit')]

end Range

theorem transform_notMem (range : Range) : "transform" ∉ names (rangeParameters range) := by
  intro h
  rcases names_rangeParameters range with hsub | hsub
  · exact absurd (hsub.subset h) (by decide)
  · exact absurd (hsub.subset h) (by decide)

theorem ne_transform {range : Range} {p : String × String} (hp : p ∈ rangeParameters range) :
    p.1 ≠ "transform" := by
  intro h
  exact transform_notMem range (h ▸ List.mem_map_of_mem hp)

theorem lookup_transform (q : Query) : q.parameters.lookup "transform" = q.transform := by
  have hrange : (rangeParameters q.range).lookup "transform" = none := by
    refine List.lookup_eq_none_iff.2 fun p hp => ?_
    exact bne_iff_ne.2 (ne_transform hp).symm
  unfold parameters
  rw [List.lookup_append, hrange, Option.none_or]
  cases q.transform <;> rfl

theorem filter_transform (q : Query) :
    q.parameters.filter (·.1 != "transform") = rangeParameters q.range := by
  have hrange : ∀ p ∈ rangeParameters q.range, (p.1 != "transform") = true := by
    intro p hp
    exact bne_iff_ne.2 (ne_transform hp)
  unfold parameters
  rw [List.filter_append, List.filter_eq_self.2 hrange]
  cases q.transform <;> simp

/-- Queries with the same parameters are the same, whole streams apart. -/
theorem parameters_eq_iff (q q' : Query) : q.parameters = q'.parameters ↔
    q.transform = q'.transform ∧ q.range.canonical = q'.range.canonical := by
  constructor
  · intro h
    refine ⟨?_, Range.canonical_of_parameters ?_⟩
    · rw [← lookup_transform q, ← lookup_transform q', h]
    · rw [← Range.rangeParameters_eq, ← Range.rangeParameters_eq, ← filter_transform q,
        ← filter_transform q', h]
  · rintro ⟨htransform, hrange⟩
    unfold parameters
    rw [htransform, Range.rangeParameters_eq, Range.rangeParameters_eq, hrange]

end SeriesClient.Query
