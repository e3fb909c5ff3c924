import SeriesClient.Query
import Mathlib.Tactic.Common

/-! Queries from settings. A builder keeps of each part the value that was given for it last, so those
last values decide whether a query can be built and with which parameters it goes out, whatever the
order of the settings and however often a part was set. -/

namespace SeriesClient.Query

variable {α : Type}

def indexNames : List String := ["i1", "i2"]

def timeNames : List String := ["t1", "t2", "limit"]

def names (parameters : Parameters) : List String := parameters.map Prod.fst

theorem rangeParameters_ne_nil (range : Range) : rangeParameters range ≠ [] := by
  unfold rangeParameters
  split
  · simp
  · next h => exact h

theorem rangeParameters_of_ne_nil {range : Range} (h : range.parameters ≠ []) :
    rangeParameters range = range.parameters := by
  unfold rangeParameters
  split
  · next hnil => exact absurd hnil h
  · rfl

/-- A range is told by index or by time, in the order of the names. -/
theorem names_rangeParameters (range : Range) :
    (names (rangeParameters range)).Sublist indexNames ∨
      (names (rangeParameters range)).Sublist timeNames := by
  cases range with
  | fromStart => exact Or.inl (by decide)
  | byIndex first bound =>
    left
    cases bound <;> simp [rangeParameters, Range.parameters, names, indexNames]
  | byTime start stop limit =>
    -- With nothing set the range is told by the index it starts at.
    cases start <;> cases stop <;> cases limit <;>
      simp [rangeParameters, Range.parameters, names, timeNames, indexNames]

theorem names_parameters (q : Query) :
    names q.parameters =
      names (rangeParameters q.range) ++ (q.transform.map fun _ => "transform").toList := by
  cases h : q.transform <;> simp [parameters, names, h]

theorem nodup_names (q : Query) : (names q.parameters).Nodup := by
  rw [names_parameters]
  have hall : ∀ allowed : List String, allowed.Nodup → "transform" ∉ allowed →
      (names (rangeParameters q.range)).Sublist allowed →
      (names (rangeParameters q.range) ++ (q.transform.map fun _ => "transform").toList).Nodup := by
    intro allowed hnodup hnot hsub
    cases q.transform with
    | none => simpa using hnodup.sublist hsub
    | some expression =>
      refine List.nodup_append.2 ⟨hnodup.sublist hsub, by simp, ?_⟩
      rintro name hname _ hmem rfl
      obtain rfl : name = "transform" := by simpa using hmem
      exact hnot (hsub.subset hname)
  rcases names_rangeParameters q.range with h | h
  · exact hall indexNames (by decide) (by decide) h
  · exact hall timeNames (by decide) (by decide) h

/-- Parameters of both kinds never go out together. -/
theorem not_both_names (q : Query) :
    ¬ ((∃ name ∈ indexNames, name ∈ names q.parameters) ∧
      ∃ name ∈ timeNames, name ∈ names q.parameters) := by
  rintro ⟨⟨i, hindex, hi⟩, t, htime, ht⟩
  have hrange : ∀ name ≠ "transform", name ∈ names q.parameters →
      name ∈ names (rangeParameters q.range) := by
    intro name hne hmem
    rw [names_parameters, List.mem_append] at hmem
    refine hmem.resolve_right fun h => hne ?_
    obtain ⟨-, rfl⟩ := by simpa using h
    rfl
  have hi := hrange i (by rintro rfl; revert hindex; decide) hi
  have ht := hrange t (by rintro rfl; revert htime; decide) ht
  have hapart : ∀ name ∈ indexNames, name ∉ timeNames := by decide
  rcases names_rangeParameters q.range with h | h
  · exact hapart t (h.subset ht) htime
  · exact hapart i hindex (h.subset hi)

namespace Builder

namespace Setting

def name : Setting → String
  | .t1 _ => "t1"
  | .t2 _ => "t2"
  | .limit _ => "limit"
  | .i1 _ => "i1"
  | .i2 _ => "i2"
  | .transform _ => "transform"

def isIndex : Setting → Bool
  | .i1 _ | .i2 _ => true
  | _ => false

def isTime : Setting → Bool
  | .t1 _ | .t2 _ | .limit _ => true
  | _ => false

end Setting

theorem isByIndex_setAll (b : Builder) (settings : List Setting) :
    (b.setAll settings).isByIndex = (b.isByIndex || settings.any Setting.isIndex) := by
  induction settings generalizing b with
  | nil => simp [setAll]
  | cons x settings ih =>
    have hset : (b.set x).isByIndex = (b.isByIndex || x.isIndex) := by
      cases x <;> simp [set, isByIndex, Setting.isIndex]
    rw [setAll, List.foldl_cons, ← setAll, ih, hset, List.any_cons, Bool.or_assoc]

theorem isByTime_setAll (b : Builder) (settings : List Setting) :
    (b.setAll settings).isByTime = (b.isByTime || settings.any Setting.isTime) := by
  induction settings generalizing b with
  | nil => simp [setAll]
  | cons x settings ih =>
    have hset : (b.set x).isByTime = (b.isByTime || x.isTime) := by
      cases x <;> simp [set, isByTime, Setting.isTime]
    rw [setAll, List.foldl_cons, ← setAll, ih, hset, List.any_cons, Bool.or_assoc]

theorem build_of_mixed {settings : List Setting} (hindex : settings.any Setting.isIndex = true)
    (htime : settings.any Setting.isTime = true) :
    (({} : Builder).setAll settings).build = .error .addressingConflict := by
  rw [build, isByIndex_setAll, isByTime_setAll, hindex, htime, Bool.or_true, Bool.or_true,
    if_pos rfl, if_pos rfl]

/-- A part of a builder, with the settings that give it a value. -/
structure Part (α : Type) where
  name : String
  field : Builder → Option α
  value? : Setting → Option α
  field_set : ∀ b x, field (b.set x) = (value? x).or (field b)
  value?_of_ne : ∀ x, x.name ≠ name → value? x = none

namespace Part

def t1 : Part Float where
  name := "t1"
  field := Builder.t1
  value?
    | .t1 t => some t
    | _ => none
  field_set b x := by cases x <;> rfl
  value?_of_ne x h := by cases x <;> simp [Setting.name] at h ⊢

def t2 : Part Float where
  name := "t2"
  field := Builder.t2
  value?
    | .t2 t => some t
    | _ => none
  field_set b x := by cases x <;> rfl
  value?_of_ne x h := by cases x <;> simp [Setting.name] at h ⊢

def limit : Part UInt64 where
  name := "limit"
  field := Builder.limit
  value?
    | .limit n => some n
    | _ => none
  field_set b x := by cases x <;> rfl
  value?_of_ne x h := by cases x <;> simp [Setting.name] at h ⊢

def i1 : Part Int64 where
  name := "i1"
  field := Builder.i1
  value?
    | .i1 i => some i
    | _ => none
  field_set b x := by cases x <;> rfl
  value?_of_ne x h := by cases x <;> simp [Setting.name] at h ⊢

def i2 : Part Int64 where
  name := "i2"
  field := Builder.i2
  value?
    | .i2 i => some i
    | _ => none
  field_set b x := by cases x <;> rfl
  value?_of_ne x h := by cases x <;> simp [Setting.name] at h ⊢

def transform : Part String where
  name := "transform"
  field := Builder.transform
  value?
    | .transform e => some e
    | _ => none
  field_set b x := by cases x <;> rfl
  value?_of_ne x h := by cases x <;> simp [Setting.name] at h ⊢

variable (p : Part α)

def last (settings : List Setting) : Option α := (settings.filterMap p.value?).getLast?

theorem last_cons (x : Setting) (settings : List Setting) :
    p.last (x :: settings) = (p.last settings).or (p.value? x) := by
  cases h : p.value? x with
  | none => simp [last, h]
  | some value =>
    rw [last, List.filterMap_cons_some h, List.getLast?_cons]
    cases hrest : p.last settings <;> rw [last] at hrest <;> simp [hrest]

theorem field_setAll (b : Builder) (settings : List Setting) :
    p.field (b.setAll settings) = (p.last settings).or (p.field b) := by
  induction settings generalizing b with
  | nil => rfl
  | cons x settings ih =>
    rw [setAll, List.foldl_cons, ← setAll, ih, p.field_set, last_cons, Option.or_assoc]

/-- Only the settings of the part matter for its last value. -/
theorem last_filter (settings : List Setting) :
    p.last (settings.filter (·.name = p.name)) = p.last settings := by
  induction settings with
  | nil => rfl
  | cons x settings ih =>
    by_cases hname : x.name = p.name
    · rw [List.filter_cons_of_pos (by simpa using hname), last_cons, ih, last_cons]
    · rw [List.filter_cons_of_neg (by simpa using hname), ih, last_cons, p.value?_of_ne x hname,
        Option.or_none]

end Part

theorem setAll_eq (settings : List Setting) :
    ({} : Builder).setAll settings =
      { t1 := Part.t1.last settings
        t2 := Part.t2.last settings
        limit := Part.limit.last settings
        i1 := Part.i1.last settings
        i2 := Part.i2.last settings
        transform := Part.transform.last settings } := by
  have hlast : ∀ {α : Type} (p : Part α), p.field {} = none →
      p.field (({} : Builder).setAll settings) = p.last settings := by
    intro α p hnone
    rw [p.field_setAll, hnone, Option.or_none]
  cases hb : ({} : Builder).setAll settings
  rw [hb] at hlast
  simp only [← hlast Part.t1 rfl, ← hlast Part.t2 rfl, ← hlast Part.limit rfl,
    ← hlast Part.i1 rfl, ← hlast Part.i2 rfl, ← hlast Part.transform rfl]
  rfl

/-- Settings that go by index and by time at once. -/
def Mixed (settings : List Setting) : Prop :=
  settings.any Setting.isIndex = true ∧ settings.any Setting.isTime = true

/-- The parameters that the last values ask for. -/
def asked (settings : List Setting) : Parameters :=
  (if settings.any Setting.isIndex then
    ("i1", indexText ((Part.i1.last settings).getD 0)) ::
      ((Part.i2.last settings).map fun i => ("i2", indexText i)).toList
  else if settings.any Setting.isTime then
    ((Part.t1.last settings).map fun t => ("t1", timeText t)).toList ++
      ((Part.t2.last settings).map fun t => ("t2", timeText t)).toList ++
      ((Part.limit.last settings).map fun n => ("limit", limitText n)).toList
  else [("i1", "0")]) ++
    ((Part.transform.last settings).map fun e => ("transform", e)).toList

theorem build_of_not_both {b : Builder} (h : ¬ (b.isByIndex = true ∧ b.isByTime = true)) :
    ∃ q, b.build = .ok q ∧ q.parameters =
      (if b.isByIndex then
        ("i1", indexText (b.i1.getD 0)) :: (b.i2.map fun i => ("i2", indexText i)).toList
      else if b.isByTime then
        (b.t1.map fun t => ("t1", timeText t)).toList ++
          (b.t2.map fun t => ("t2", timeText t)).toList ++
          (b.limit.map fun n => ("limit", limitText n)).toList
      else [("i1", "0")]) ++ (b.transform.map fun e => ("transform", e)).toList := by
  unfold build
  split_ifs with hindex htime htime
  · exact absurd ⟨hindex, htime⟩ h
  · refine ⟨_, rfl, ?_⟩
    cases hi2 : b.i2 <;> simp [parameters, rangeParameters, Range.parameters]
  · refine ⟨_, rfl, ?_⟩
    -- One of the three is set, so there is a parameter.
    have hsome : (Range.byTime b.t1 b.t2 b.limit).parameters ≠ [] := by
      intro hnil
      cases h1 : b.t1 <;> cases h2 : b.t2 <;> cases h3 : b.limit <;>
        simp_all [Range.parameters, isByTime]
    rw [parameters, rangeParameters_of_ne_nil hsome, Range.parameters]
  · exact ⟨_, rfl, rfl⟩

theorem build_of_not_mixed {settings : List Setting} (h : ¬ Mixed settings) :
    ∃ q, (({} : Builder).setAll settings).build = .ok q ∧ q.parameters = asked settings := by
  have hindex : (({} : Builder).setAll settings).isByIndex = settings.any Setting.isIndex :=
    isByIndex_setAll {} settings
  have htime : (({} : Builder).setAll settings).isByTime = settings.any Setting.isTime :=
    isByTime_setAll {} settings
  have hbuilt := build_of_not_both (b := ({} : Builder).setAll settings)
    (by rw [hindex, htime]; exact h)
  rw [hindex, htime] at hbuilt
  rw [setAll_eq] at hbuilt ⊢
  exact hbuilt

/-- Settings fail to make a query just if they go by index and by time. Otherwise the last values make
the parameters: no name comes twice, names of an index and of a time never come together, and there
is always one for the range. The order of settings of different parts does not matter, nor does it
matter whether the parts are built or converted. -/
theorem built_from_last_values (settings : List Setting) :
    (match (({} : Builder).setAll settings).build with
      | .error cause => cause = .addressingConflict ∧ Mixed settings
      | .ok q => ¬ Mixed settings ∧ q.parameters = asked settings ∧
        (names q.parameters).Nodup ∧
        ¬ ((∃ name ∈ indexNames, name ∈ names q.parameters) ∧
          ∃ name ∈ timeNames, name ∈ names q.parameters) ∧
        rangeParameters q.range ≠ []) ∧
    (∀ settings' : List Setting,
      (∀ part, settings'.filter (·.name = part) = settings.filter (·.name = part)) →
        (({} : Builder).setAll settings').build = (({} : Builder).setAll settings).build) ∧
    Query.ofBuilder (({} : Builder).setAll settings) = (({} : Builder).setAll settings).build := by
  refine ⟨?_, fun settings' hsame => ?_, rfl⟩
  · by_cases hmixed : Mixed settings
    · rw [build_of_mixed hmixed.1 hmixed.2]
      exact ⟨rfl, hmixed⟩
    · obtain ⟨q, hq, hparameters⟩ := build_of_not_mixed hmixed
      rw [hq]
      exact ⟨hmixed, hparameters, q.nodup_names, q.not_both_names, rangeParameters_ne_nil q.range⟩
  · have hlast : ∀ {α : Type} (p : Part α), p.last settings' = p.last settings := by
      intro α p
      rw [← p.last_filter settings', hsame, p.last_filter]
    rw [setAll_eq, setAll_eq]
    simp only [hlast]

/-- The second `i1` counts, and an `i2` alone would start at 0. -/
theorem built_from_last_values_again :
    ∃ q, (({} : Builder).setAll [.i2 9, .i1 4, .transform "$", .i1 (-2)]).build = .ok q ∧
      (({} : Builder).setAll [.i1 4, .transform "$", .i1 (-2), .i2 9]).build = .ok q ∧
      q.parameters = [("i1", "-2"), ("i2", "9"), ("transform", "$")] := by
  have h := built_from_last_values [.i2 9, .i1 4, .transform "$", .i1 (-2)]
  have hsame := h.2.1 [.i1 4, .transform "$", .i1 (-2), .i2 9] (by
    intro part
    simp only [List.filter, Setting.name]
    by_cases h1 : "i1" = part <;> by_cases h2 : "i2" = part <;> subst_vars <;> simp_all)
  exact ⟨_, rfl, hsame, h.1.2.1.trans rfl⟩

end Builder
end SeriesClient.Query
