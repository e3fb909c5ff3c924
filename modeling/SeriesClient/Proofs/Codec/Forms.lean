import SeriesClient.Proofs.Codec.Ordered
import SeriesClient.Proofs.Codec.RoundTrip
import Mathlib.Data.List.Forall2

/-! The documents that are lists of datapoints. A datapoint has the form of an object, in which the time
and the origin may be missing, or that of a list of two or three fields in order, in which only the origin
may be. A list of datapoints is read out of a document in these forms and out of no other. -/

namespace SeriesClient

theorem except_bind_eq_ok_iff {ε α β : Type} {x : Except ε α} {f : α → Except ε β} {b : β} :
    x >>= f = .ok b ↔ ∃ a, x = .ok a ∧ f a = .ok b := by
  cases x <;> simp [bind, Except.bind]

theorem mapM_eq_ok_iff {ε α β : Type} {f : α → Except ε β} {R : α → β → Prop} {as : List α}
    (h : ∀ a ∈ as, ∀ b, f a = .ok b ↔ R a b) (bs : List β) :
    as.mapM f = .ok bs ↔ List.Forall₂ R as bs := by
  induction as generalizing bs with
  | nil => cases bs <;> simp [pure, Except.pure]
  | cons a as ih =>
    obtain ⟨ha, has⟩ := List.forall_mem_cons.1 h
    have htail := ih has
    rw [List.mapM_cons, except_bind_eq_ok_iff]
    constructor
    · rintro ⟨b, hfirst, hread⟩
      obtain ⟨rest, hrest, hbs⟩ := except_bind_eq_ok_iff.1 hread
      cases hbs
      exact .cons ((ha b).1 hfirst) ((htail rest).1 hrest)
    · intro hforms
      cases hforms with
      | cons hfirst hrest =>
        exact ⟨_, (ha _).2 hfirst, except_bind_eq_ok_iff.2 ⟨_, (htail _).2 hrest, rfl⟩⟩

theorem exists_of_forall₂ {α β : Type} {R : α → β → Prop} {as : List α} {bs : List β}
    (h : List.Forall₂ R as bs) : ∀ a ∈ as, ∃ b ∈ bs, R a b := by
  induction h with
  | nil => exact List.forall_mem_nil _
  | @cons a b as bs hab _ ih =>
    intro a' ha'
    rcases List.mem_cons.1 ha' with rfl | ha'
    · exact ⟨b, List.mem_cons_self, hab⟩
    · obtain ⟨b', hb', hR⟩ := ih a' ha'
      exact ⟨b', List.mem_cons_of_mem b hb', hR⟩

namespace Datapoint

open Json

inductive TimeForm : Json → Option Float → Prop where
  | unset : TimeForm .null none
  | number (n : Number) : TimeForm (.number n) (some n.toFloat)

inductive OriginForm : Json → Option String → Prop where
  | unset : OriginForm .null none
  | text (s : String) : OriginForm (.string s) (some s)

/-- A field that an object may do without. -/
inductive Optionally {α : Type} (form : Json → Option α → Prop) : Option Json → Option α → Prop where
  | absent : Optionally form none none
  | present {v : Json} {x : Option α} (h : form v x) : Optionally form (some v) x

/-- The document is the datapoint, in one of its forms. -/
inductive Form : Json → Datapoint → Prop where
  | object {members : Members} {t : Option Float} {d : Normal} {o : Option String}
      (htime : Optionally TimeForm (lookup "t" members) t) (hdata : lookup "d" members = some d.json)
      (horigin : Optionally OriginForm (lookup "o" members) o) : Form (.object members) ⟨t, d, o⟩
  | pair {v : Json} {t : Option Float} {d : Normal} (htime : TimeForm v t) :
      Form (.array [v, d.json]) ⟨t, d, none⟩
  | triple {v w : Json} {t : Option Float} {d : Normal} {o : Option String} (htime : TimeForm v t)
      (horigin : OriginForm w o) : Form (.array [v, d.json, w]) ⟨t, d, o⟩

/-- The document is the list of datapoints, each in a form of its own. -/
inductive Forms : Json → List Datapoint → Prop where
  | null : Forms .null []
  | array {vs : List Json} {points : List Datapoint} (h : List.Forall₂ Form vs points) :
      Forms (.array vs) points

theorem timeOfJson_eq_ok_iff {v : Json} {t : Option Float} : timeOfJson v = .ok t ↔ TimeForm v t := by
  constructor
  · intro h
    cases v with
    | null =>
      cases h
      exact .unset
    | number n =>
      cases h
      exact .number n
    | bool _ | string _ | array _ | object _ => cases h
  · intro h
    cases h <;> rfl

theorem originOfJson_eq_ok_iff {v : Json} {o : Option String} :
    originOfJson v = .ok o ↔ OriginForm v o := by
  constructor
  · intro h
    cases v with
    | null =>
      cases h
      exact .unset
    | string s =>
      cases h
      exact .text s
    | bool _ | number _ | array _ | object _ => cases h
  · intro h
    cases h <;> rfl

/-- A field that may be missing is what is read of it, if it is there. -/
theorem optionally_iff {α : Type} {read : Json → Except Mismatch (Option α)}
    {form : Json → Option α → Prop} (hread : ∀ v x, read v = .ok x ↔ form v x) {found : Option Json}
    {x : Option α} : Optionally form found x ↔
      ∃ y, found.mapM (fun v => (read v).toOption) = some y ∧ y.join = x := by
  cases found with
  | none =>
    constructor
    · intro h
      cases h
      exact ⟨none, rfl, rfl⟩
    · rintro ⟨y, hy, rfl⟩
      cases hy
      exact .absent
  | some v =>
    have hmap : (some v).mapM (fun v => (read v).toOption) = (read v).toOption.map some :=
      rfl
    rw [hmap]
    constructor
    · intro h
      cases h with
      | present hform =>
        rw [(hread v x).2 hform]
        exact ⟨some x, rfl, rfl⟩
    · rintro ⟨y, hy, rfl⟩
      obtain ⟨z, hz, rfl⟩ := Option.map_eq_some_iff.1 hy
      exact .present ((hread v z).1 (ok_of_toOption hz))

/-- The fields that are found among the members, if each can be read. -/
def gathered (members : Members) : Option Fields := do
  let time ← (lookup "t" members).mapM fun v => (timeOfJson v).toOption
  let origin ← (lookup "o" members).mapM fun v => (originOfJson v).toOption
  some ⟨time, lookup "d" members, origin⟩

variable {members : Members} {name other : String} {v : Json}

theorem lookup_concat_self (h : name ∉ names members) :
    lookup name (members ++ [(name, v)]) = some v := by
  rw [lookup_concat, lookup_eq_none_iff.2 h, if_pos rfl]
  rfl

theorem lookup_concat_of_ne (h : other ≠ name) :
    lookup name (members ++ [(other, v)]) = lookup name members := by
  rw [lookup_concat, if_neg h, Option.or_none]

/-- A member of a name that has not come yet is taken for what it is. -/
theorem gathered_concat (hfresh : name ∉ names members) :
    (gathered members).bind (·.step (name, v)) = gathered (members ++ [(name, v)]) := by
  have hnone := lookup_eq_none_iff.2 hfresh
  have hself := lookup_concat_self (v := v) hfresh
  unfold gathered
  cases role_of_name name with
  | time =>
    rw [hself, hnone, lookup_concat_of_ne (by decide), lookup_concat_of_ne (by decide)]
    cases h : timeOfJson v <;>
      cases (lookup "o" members).mapM fun v => (originOfJson v).toOption <;>
      simp [Fields.step, Fields.takeMember, h] <;> rfl
  | data =>
    rw [hself, hnone, lookup_concat_of_ne (by decide), lookup_concat_of_ne (by decide)]
    cases (lookup "t" members).mapM fun v => (timeOfJson v).toOption <;>
      cases (lookup "o" members).mapM fun v => (originOfJson v).toOption <;>
      simp [Fields.step, Fields.takeMember]
    rfl
  | origin =>
    rw [hself, hnone, lookup_concat_of_ne (by decide), lookup_concat_of_ne (by decide)]
    cases (lookup "t" members).mapM fun v => (timeOfJson v).toOption <;>
      cases h : originOfJson v <;> simp [Fields.step, Fields.takeMember, h] <;> rfl
  | other h =>
    rw [lookup_concat_of_ne h.1, lookup_concat_of_ne h.2.1, lookup_concat_of_ne h.2.2]
    cases (lookup "t" members).mapM fun v => (timeOfJson v).toOption <;>
      cases (lookup "o" members).mapM fun v => (originOfJson v).toOption <;>
      simp [step_other h]

theorem foldlM_step_eq_gathered (hnodup : (names members).Nodup) :
    members.foldlM Fields.step {} = gathered members := by
  induction members using List.reverseRecOn with
  | nil => rfl
  | append_singleton members m ih =>
    rw [names, List.map_append] at hnodup
    obtain ⟨hmembers, -, hapart⟩ := List.nodup_append.1 hnodup
    have hfresh : m.1 ∉ names members := fun hm => hapart m.1 hm m.1 (by simp) rfl
    rw [List.foldlM_append, ih hmembers, ← gathered_concat hfresh]
    simp

theorem finish_eq_ok_iff {f : Fields} {p : Datapoint} : f.finish = .ok p ↔
    ∃ d, f.data = some d ∧ p = ⟨f.time.join, d.toNormal, f.origin.join⟩ := by
  unfold Fields.finish
  cases f.data with
  | none => simp
  | some d => simp [eq_comm]

/-- An object is read just if it has the form of a datapoint. -/
theorem ofMembers_eq_ok_iff (hnodup : (names members).Nodup)
    (hnormal : ∀ m ∈ members, m.2.normalize = m.2) {p : Datapoint} :
    ofMembers members = .ok p ↔ Form (.object members) p := by
  have hread : (ofMembers members).toOption = (gathered members).bind (·.finish.toOption) := by
    rw [ofMembers, toOption_bind, toOption_foldlM, ← foldlM_step_eq_gathered hnodup]
    rfl
  have hvalue {d : Json} (hd : lookup "d" members = some d) : lookup "d" members = some d.toNormal.json :=
    hd.trans (congrArg some (hnormal _ ((lookup_eq_some_iff hnodup).1 hd)).symm)
  constructor
  · intro h
    rw [h] at hread
    obtain ⟨f, hf, hfinish⟩ := Option.bind_eq_some_iff.1 hread.symm
    obtain ⟨d, hd, rfl⟩ := finish_eq_ok_iff.1 (ok_of_toOption hfinish)
    simp only [gathered, Option.bind_eq_bind, Option.bind_eq_some_iff] at hf
    obtain ⟨t, ht, o, ho, hf⟩ := hf
    cases hf
    exact .object ((optionally_iff fun _ _ => timeOfJson_eq_ok_iff).2 ⟨t, ht, rfl⟩) (hvalue hd)
      ((optionally_iff fun _ _ => originOfJson_eq_ok_iff).2 ⟨o, ho, rfl⟩)
  · intro h
    cases h with
    | @object _ t d o htime hdata horigin =>
      obtain ⟨x, hx, rfl⟩ := (optionally_iff fun _ _ => timeOfJson_eq_ok_iff).1 htime
      obtain ⟨y, hy, rfl⟩ := (optionally_iff fun _ _ => originOfJson_eq_ok_iff).1 horigin
      apply ok_of_toOption
      rw [hread]
      simp [gathered, hx, hy, hdata, Fields.finish]
      rfl

theorem ofItems_eq_ok_iff {items : List Json} (hnormal : ∀ v ∈ items, v.normalize = v) {p : Datapoint} :
    ofItems items = .ok p ↔ Form (.array items) p := by
  rcases items with _ | ⟨v, _ | ⟨d, _ | ⟨w, rest⟩⟩⟩
  · constructor <;> intro h <;> cases h
  · constructor
    · intro h
      obtain ⟨t, -, hshort⟩ := except_bind_eq_ok_iff.1 h
      cases hshort
    · intro h
      cases h
  · have hd : d.toNormal.json = d := hnormal d (by simp)
    constructor
    · intro h
      obtain ⟨t, htime, hp⟩ := except_bind_eq_ok_iff.1 h
      cases hp
      have hpair := Form.pair (d := d.toNormal) (timeOfJson_eq_ok_iff.1 htime)
      rwa [hd] at hpair
    · intro h
      cases h with
      | pair htime =>
        rw [ofItems, timeOfJson_eq_ok_iff.2 htime, Normal.toNormal_json]
        rfl
  · have hd : d.toNormal.json = d := hnormal d (by simp)
    constructor
    · intro h
      obtain ⟨t, htime, h⟩ := except_bind_eq_ok_iff.1 h
      obtain ⟨o, horigin, hp⟩ := except_bind_eq_ok_iff.1 h
      cases rest with
      | nil =>
        cases hp
        have htriple := Form.triple (d := d.toNormal) (timeOfJson_eq_ok_iff.1 htime)
          (originOfJson_eq_ok_iff.1 horigin)
        rwa [hd] at htriple
      | cons _ _ => cases hp
    · intro h
      cases h with
      | triple htime horigin =>
        rw [ofItems, timeOfJson_eq_ok_iff.2 htime, originOfJson_eq_ok_iff.2 horigin,
          Normal.toNormal_json]
        rfl

theorem ofJson_eq_ok_iff {v : Json} (h : v.normalize = v) {p : Datapoint} :
    ofJson v = .ok p ↔ Form v p := by
  cases v with
  | object members =>
    obtain ⟨hrising, hnormal⟩ := members_of_normal h
    exact ofMembers_eq_ok_iff (nodup_of_rising hrising) hnormal
  | array items => exact ofItems_eq_ok_iff (items_of_normal h)
  | null | bool _ | number _ | string _ =>
    constructor <;> intro h <;> cases h

theorem listOfAnswer_eq_ok_iff {v : Json} (h : v.normalize = v) {points : List Datapoint} :
    listOfAnswer v = .ok points ↔ Forms v points := by
  cases v with
  | null =>
    constructor
    · intro hread
      cases hread
      exact .null
    · intro hforms
      cases hforms
      rfl
  | array items =>
    have heach : ∀ item ∈ items, ∀ p, ofJson item = .ok p ↔ Form item p := fun item hitem _ =>
      ofJson_eq_ok_iff (items_of_normal h item hitem)
    rw [listOfAnswer, listOfJson, mapM_eq_ok_iff heach]
    · constructor
      · exact .array
      · intro hforms
        cases hforms with
        | array heach => exact heach
    · intro hnull
      cases hnull
  | bool _ | number _ | string _ | object _ =>
    constructor <;> intro h <;> cases h

theorem TimeForm.normalize {v : Json} {t : Option Float} (h : TimeForm v t) :
    TimeForm v.normalize t := by
  cases h with
  | unset => rw [Json.normalize]; exact .unset
  | number n => rw [Json.normalize]; exact .number n

theorem OriginForm.normalize {v : Json} {o : Option String} (h : OriginForm v o) :
    OriginForm v.normalize o := by
  cases h with
  | unset => rw [Json.normalize]; exact .unset
  | text s => rw [Json.normalize]; exact .text s

theorem Optionally.map {α : Type} {form : Json → Option α → Prop} {found : Option Json}
    {x : Option α} {g : Json → Json} (hg : ∀ v, form v x → form (g v) x) (h : Optionally form found x) :
    Optionally form (found.map g) x := by
  cases h with
  | absent => exact .absent
  | present hform => exact .present (hg _ hform)

/-- The order of the members does not matter for the form. -/
theorem form_normalize_object {p : Datapoint} (hnodup : (names members).Nodup)
    (h : Form (.object members) p) : Form (Json.object members).normalize p := by
  cases h with
  | object htime hfound horigin =>
    rw [Json.normalize]
    apply Form.object
    · rw [lookup_sorted hnodup]
      exact htime.map fun _ => TimeForm.normalize
    · rw [lookup_sorted hnodup, hfound, Option.map_some, Normal.sorted]
    · rw [lookup_sorted hnodup]
      exact horigin.map fun _ => OriginForm.normalize

theorem timeForm_ofFloat (t : Float) : TimeForm (Json.ofFloat t) ((some t).filter (·.isFinite)) := by
  unfold Json.ofFloat
  by_cases h : t.isFinite = true
  · rw [dif_pos h, Option.filter_some, if_pos h]
    exact .number (.real t h)
  · rw [dif_neg h, Option.filter_some, if_neg h]
    exact .unset

theorem form_toJson (p : Datapoint) : Form p.toJson.normalize p.settled := by
  obtain ⟨time, data, origin⟩ := p
  refine form_normalize_object ?_ (.object ?_ ?_ ?_)
  · cases time <;> cases origin <;> simp [names]
  · cases time with
    | none => cases origin <;> exact .absent
    | some t => exact .present (timeForm_ofFloat t)
  · cases time <;> rfl
  · cases origin with
    | none => cases time <;> exact .absent
    | some o => cases time <;> exact .present (.text o)

def row (p : Datapoint) : Json :=
  .array [p.time.elim .null Json.ofFloat, p.data.json, p.origin.elim .null Json.string]

theorem form_row (p : Datapoint) : Form p.row p.settled := by
  obtain ⟨time, data, origin⟩ := p
  apply Form.triple
  · cases time with
    | none => exact .unset
    | some t => exact timeForm_ofFloat t
  · cases origin with
    | none => exact .unset
    | some o => exact .text o

theorem normalize_row (p : Datapoint) : p.row.normalize = p.row := by
  have htime : (p.time.elim .null Json.ofFloat).normalize = p.time.elim .null Json.ofFloat := by
    cases p.time with
    | none => exact Json.normalize.eq_3
    | some t => exact normalize_ofFloat t
  have horigin : (p.origin.elim .null Json.string).normalize = p.origin.elim .null Json.string := by
    cases p.origin with
    | none => exact Json.normalize.eq_3
    | some o => exact normalize_string o
  rw [row, normalize_array]
  simp only [List.map_cons, List.map_nil, htime, Normal.sorted, horigin]

/-- Datapoints that are each written as an object or as a row are read back. -/
theorem listOfAnswer_written {points : List Datapoint} {vs : List Json}
    (h : List.Forall₂ (fun v p => v = p.toJson.normalize ∨ v = p.row) vs points) :
    listOfAnswer (.array vs) = .ok (points.map settled) := by
  have hforms : List.Forall₂ Form vs (points.map settled) ∧ ∀ v ∈ vs, v.normalize = v := by
    induction h with
    | nil => exact ⟨.nil, List.forall_mem_nil _⟩
    | @cons v p vs points hv _ ih =>
      obtain ⟨hrest, hnormal⟩ := ih
      have hfirst : Form v p.settled ∧ v.normalize = v := by
        rcases hv with rfl | rfl
        · exact ⟨form_toJson p, normalize_normalize _⟩
        · exact ⟨form_row p, normalize_row p⟩
      exact ⟨.cons hfirst.1 hrest, List.forall_mem_cons.2 ⟨hfirst.2, hnormal⟩⟩
  have hnormal : (Json.array vs).normalize = .array vs := by
    rw [normalize_array]
    congr 1
    exact (List.map_congr_left hforms.2).trans (List.map_id vs)
  exact (listOfAnswer_eq_ok_iff hnormal).2 (.array hforms.1)

/-- An answer, its members in order by name as documents are held, is read just if it is `null` or a
list of documents that each have a form of a datapoint, and then as these datapoints in their order. One
element that has no form fails the whole list. What is written of datapoints is such a document, whether
they are written as objects or any of them as rows; read back are the datapoints, with each time that
is not finite unset. -/
theorem answer_read_iff_forms :
    (∀ v : Json, v.normalize = v →
      (∀ points, listOfAnswer v = .ok points ↔ Forms v points) ∧
      ((∃ cause, listOfAnswer v = .error cause) ↔ ∀ points, ¬ Forms v points)) ∧
    (∀ vs : List Json, (Json.array vs).normalize = .array vs → ∀ v ∈ vs, (∀ p, ¬ Form v p) →
      ∃ cause, listOfAnswer (.array vs) = .error cause) ∧
    ∀ points : List Datapoint,
      listOfAnswer (listToJson points).normalize = .ok (points.map settled) ∧
      ∀ vs, List.Forall₂ (fun v p => v = p.toJson.normalize ∨ v = p.row) vs points →
        listOfAnswer (.array vs) = .ok (points.map settled) := by
  have hfails {v : Json} (h : v.normalize = v) :
      (∃ cause, listOfAnswer v = .error cause) ↔ ∀ points, ¬ Forms v points := by
    constructor
    · rintro ⟨cause, hcause⟩ points hforms
      rw [(listOfAnswer_eq_ok_iff h).2 hforms] at hcause
      cases hcause
    · intro hnone
      cases hread : listOfAnswer v with
      | error cause => exact ⟨cause, rfl⟩
      | ok points => exact absurd ((listOfAnswer_eq_ok_iff h).1 hread) (hnone points)
  refine ⟨fun v h => ⟨fun points => listOfAnswer_eq_ok_iff h, hfails h⟩, ?_, ?_⟩
  · intro vs h v hv hnone
    rw [hfails h]
    intro points hforms
    cases hforms with
    | array heach =>
      obtain ⟨p, -, hp⟩ := exists_of_forall₂ heach v hv
      exact hnone p hp
  · intro points
    refine ⟨?_, fun vs h => listOfAnswer_written h⟩
    rw [listToJson, normalize_array, List.map_map]
    apply listOfAnswer_written
    rw [List.forall₂_map_left_iff]
    exact List.forall₂_same.2 fun p _ => Or.inl rfl

def assorted : List Json :=
  [.object [("d", .null), ("t", ofInt 5), ("x", .bool true)], .array [.null, .string "a"],
    .array [ofFloat 1.5, .array [], .string "u/dev"]]

def clocked : List Datapoint :=
  [⟨some (0.0 / 0.0), Json.object [("a", .null), ("b", .bool true)], some "u/dev"⟩,
    ⟨some 1.5, Json.string "é", none⟩]

theorem answer_read_iff_forms_assorted :
    Forms (.array assorted) [⟨some (Float.ofInt 5), Json.null, none⟩, ⟨none, Json.string "a", none⟩,
      ⟨some 1.5, Json.array [], some "u/dev"⟩] ∧
    (∃ cause, listOfAnswer (.array (assorted ++ [.object [("t", .null)]])) = .error cause) ∧
    listOfAnswer (.array (clocked.map row)) =
      .ok [⟨none, Json.object [("a", .null), ("b", .bool true)], some "u/dev"⟩,
        ⟨some 1.5, Json.string "é", none⟩] := by
  obtain ⟨hiff, hbad, hwritten⟩ := answer_read_iff_forms
  refine ⟨((hiff (.array assorted) rfl).1 _).1 rfl, ?_, ?_⟩
  · refine hbad _ rfl (.object [("t", .null)]) (by simp) ?_
    intro p h
    cases h with
    | object _ hfound _ => cases hfound
  · refine (hwritten clocked).2 _ ?_
    rw [List.forall₂_map_left_iff]
    exact List.forall₂_same.2 fun p _ => Or.inr rfl

end Datapoint
end SeriesClient
