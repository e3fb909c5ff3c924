import SeriesClient.Proofs.Codec.Normal
import SeriesClient.Datapoint

/-! Datapoints out of a document whose members have been put into order by name. Neither the order of the
members nor that of what is inside them makes a difference to the datapoint that is taken out, if any is,
as long as no two members have one name. -/

namespace SeriesClient

open Json

section

variable {ε α β : Type}

theorem ok_of_toOption {x : Except ε α} {a : α} (h : x.toOption = some a) : x = .ok a := by
  cases x with
  | error cause => cases h
  | ok b => exact congrArg Except.ok (Option.some.inj h)

theorem error_of_toOption {x : Except ε α} (h : x.toOption = none) : ∃ cause, x = .error cause := by
  cases x with
  | error cause => exact ⟨cause, rfl⟩
  | ok b => cases h

theorem toOption_map (x : Except ε α) (f : α → β) : (x.map f).toOption = x.toOption.map f := by
  cases x <;> rfl

theorem toOption_bind (x : Except ε α) (f : α → Except ε β) :
    (x >>= f).toOption = x.toOption.bind fun a => (f a).toOption := by
  cases x <;> rfl

theorem toOption_foldlM (f : β → α → Except ε β) (as : List α) (b : β) :
    (as.foldlM f b).toOption = as.foldlM (fun b a => (f b a).toOption) b := by
  induction as generalizing b with
  | nil => rfl
  | cons a as ih =>
    rw [List.foldlM_cons, List.foldlM_cons, toOption_bind]
    exact congrArg _ (funext ih)

theorem toOption_mapM (f : α → Except ε β) (as : List α) :
    (as.mapM f).toOption = as.mapM fun a => (f a).toOption := by
  induction as with
  | nil => rfl
  | cons a as ih =>
    simp only [List.mapM_cons, toOption_bind, ih]
    rfl

theorem mapM_congr {f g : α → Option β} {as : List α} (h : ∀ a ∈ as, f a = g a) :
    as.mapM f = as.mapM g := by
  induction as with
  | nil => rfl
  | cons a as ih =>
    obtain ⟨ha, has⟩ := List.forall_mem_cons.1 h
    rw [List.mapM_cons, List.mapM_cons, ha, ih has]

end

namespace Datapoint

theorem timeOfJson_normalize (v : Json) : timeOfJson v.normalize = timeOfJson v := by
  cases v <;> simp only [Json.normalize, timeOfJson] <;> rfl

theorem originOfJson_normalize (v : Json) : originOfJson v.normalize = originOfJson v := by
  cases v <;> simp only [Json.normalize, originOfJson, stringOfJson] <;> rfl

def Fields.normal (f : Fields) : Fields := { f with data := f.data.map Json.normalize }

theorem finish_normal (f : Fields) : f.normal.finish = f.finish := by
  obtain ⟨time, data, origin⟩ := f
  cases data with
  | none => rfl
  | some d => simp only [Fields.normal, Fields.finish, Option.map_some, toNormal_normalize]

theorem takeMember_normal (f : Fields) (name : String) (v : Json) :
    f.normal.takeMember name v.normalize = (f.takeMember name v).map Fields.normal := by
  obtain ⟨time, data, origin⟩ := f
  simp only [Fields.normal, Fields.takeMember, timeOfJson_normalize, originOfJson_normalize,
    Option.isSome_map]
  split_ifs
  · rfl
  · cases timeOfJson v <;> rfl
  · rfl
  · rfl
  · rfl
  · cases originOfJson v <;> rfl
  · rfl

theorem foldlM_normal (ms : Members) (f : Fields) :
    (normalizeMembers ms).foldlM (fun (f : Fields) m => f.takeMember m.1 m.2) f.normal =
      (ms.foldlM (fun (f : Fields) m => f.takeMember m.1 m.2) f).map Fields.normal := by
  induction ms generalizing f with
  | nil => rfl
  | cons m ms ih =>
    rw [normalizeMembers, List.foldlM_cons, List.foldlM_cons, takeMember_normal]
    cases f.takeMember m.1 m.2 with
    | error cause => rfl
    | ok f' => exact ih f'

theorem ofMembers_normalizeMembers (ms : Members) : ofMembers (normalizeMembers ms) = ofMembers ms := by
  have hfold := foldlM_normal ms {}
  rw [ofMembers, ofMembers]
  change (normalizeMembers ms).foldlM (fun (f : Fields) m => f.takeMember m.1 m.2) {} = _ at hfold
  rw [hfold]
  cases ms.foldlM (fun (f : Fields) m => f.takeMember m.1 m.2) {} with
  | error cause => rfl
  | ok f => exact finish_normal f

def Fields.step (f : Fields) (m : String × Json) : Option Fields := (f.takeMember m.1 m.2).toOption

/-- The three fields of a datapoint, and members of other names. -/
inductive Role : String → Prop where
  | time : Role "t"
  | data : Role "d"
  | origin : Role "o"
  | other {name : String} (h : name ≠ "t" ∧ name ≠ "d" ∧ name ≠ "o") : Role name

theorem role_of_name (name : String) : Role name := by
  by_cases ht : name = "t"
  · exact ht ▸ .time
  by_cases hd : name = "d"
  · exact hd ▸ .data
  by_cases ho : name = "o"
  · exact ho ▸ .origin
  exact .other ⟨ht, hd, ho⟩

theorem step_other {name : String} (h : name ≠ "t" ∧ name ≠ "d" ∧ name ≠ "o") (f : Fields) (v : Json) :
    f.step (name, v) = some f := by
  rw [Fields.step, Fields.takeMember, if_neg h.1, if_neg h.2.1, if_neg h.2.2]
  rfl

theorem step_time_data (f : Fields) (v w : Json) :
    (f.step ("t", v)).bind (·.step ("d", w)) = (f.step ("d", w)).bind (·.step ("t", v)) := by
  obtain ⟨time, data, origin⟩ := f
  cases time <;> cases data <;> cases h : timeOfJson v <;> simp [Fields.step, Fields.takeMember, h] <;> rfl

theorem step_time_origin (f : Fields) (v w : Json) :
    (f.step ("t", v)).bind (·.step ("o", w)) = (f.step ("o", w)).bind (·.step ("t", v)) := by
  obtain ⟨time, data, origin⟩ := f
  cases time <;> cases origin <;> cases h : timeOfJson v <;> cases h' : originOfJson w <;>
    simp [Fields.step, Fields.takeMember, h, h'] <;> rfl

theorem step_data_origin (f : Fields) (v w : Json) :
    (f.step ("d", v)).bind (·.step ("o", w)) = (f.step ("o", w)).bind (·.step ("d", v)) := by
  obtain ⟨time, data, origin⟩ := f
  cases data <;> cases origin <;> cases h : originOfJson w <;>
    simp [Fields.step, Fields.takeMember, h] <;> rfl

/-- Members of different names can be taken in either order. -/
theorem step_comm {m m' : String × Json} (hne : m.1 ≠ m'.1) (f : Fields) :
    (f.step m).bind (·.step m') = (f.step m').bind (·.step m) := by
  obtain ⟨name, v⟩ := m
  obtain ⟨name', w⟩ := m'
  have hother (name : String) (h : name ≠ "t" ∧ name ≠ "d" ∧ name ≠ "o") (v : Json) (m : String × Json) :
      (f.step (name, v)).bind (·.step m) = (f.step m).bind (·.step (name, v)) := by
    rw [step_other h, Option.bind_some]
    cases f.step m with
    | none => rfl
    | some f' => exact (step_other h f' v).symm
  cases role_of_name name with
  | other h => exact hother name h v _
  | time =>
    cases role_of_name name' with
    | other h => exact (hother name' h w _).symm
    | time => exact absurd rfl hne
    | data => exact step_time_data f v w
    | origin => exact step_time_origin f v w
  | data =>
    cases role_of_name name' with
    | other h => exact (hother name' h w _).symm
    | time => exact (step_time_data f w v).symm
    | data => exact absurd rfl hne
    | origin => exact step_data_origin f v w
  | origin =>
    cases role_of_name name' with
    | other h => exact (hother name' h w _).symm
    | time => exact (step_time_origin f w v).symm
    | data => exact (step_data_origin f w v).symm
    | origin => exact absurd rfl hne

theorem foldlM_step_perm {ms ms' : Members} (h : ms.Perm ms') (hnodup : (names ms).Nodup) (f : Fields) :
    ms.foldlM Fields.step f = ms'.foldlM Fields.step f := by
  induction h generalizing f with
  | nil => rfl
  | cons m _ ih =>
    rw [List.foldlM_cons, List.foldlM_cons]
    exact congrArg _ (funext fun f' => ih (List.nodup_cons.1 hnodup).2 f')
  | swap m m' ms =>
    have hne : m'.1 ≠ m.1 := fun heq => (List.nodup_cons.1 hnodup).1 (heq ▸ List.mem_cons_self)
    simp only [List.foldlM_cons, ← bind_assoc]
    exact congrArg (· >>= fun f => ms.foldlM Fields.step f) (step_comm hne f)
  | trans hleft _ ihleft ihright =>
    exact (ihleft hnodup f).trans (ihright ((hleft.map Prod.fst).nodup_iff.1 hnodup) f)

theorem ofMembers_perm {ms ms' : Members} (h : ms.Perm ms') (hnodup : (names ms).Nodup) :
    (ofMembers ms).toOption = (ofMembers ms').toOption := by
  have hstep (ms : Members) : (ms.foldlM (fun (f : Fields) m => f.takeMember m.1 m.2) {}).toOption =
      ms.foldlM Fields.step {} :=
    toOption_foldlM (fun (f : Fields) (m : String × Json) => f.takeMember m.1 m.2) ms {}
  rw [ofMembers, ofMembers, toOption_bind, toOption_bind, hstep, hstep, foldlM_step_perm h hnodup]

end Datapoint

namespace Json

mutual

/-- No object in the document has two members of one name. -/
def Distinct : Json → Prop
  | array items => DistinctItems items
  | object members => (names members).Nodup ∧ DistinctMembers members
  | null | bool _ | number _ | string _ => True

def DistinctItems : List Json → Prop
  | [] => True
  | item :: items => item.Distinct ∧ DistinctItems items

def DistinctMembers : Members → Prop
  | [] => True
  | (_, value) :: members => value.Distinct ∧ DistinctMembers members

end

theorem distinct_items {items : List Json} (h : DistinctItems items) : ∀ item ∈ items, item.Distinct := by
  induction items with
  | nil => exact nofun
  | cons item items ih => exact List.forall_mem_cons.2 ⟨h.1, ih h.2⟩

end Json

namespace Datapoint

theorem ofItems_map_normalize (items : List Json) : ofItems (items.map normalize) = ofItems items := by
  rcases items with _ | ⟨t, _ | ⟨d, _ | ⟨o, items⟩⟩⟩
  · rfl
  · simp only [List.map_cons, List.map_nil, ofItems, timeOfJson_normalize]
  · simp only [List.map_cons, List.map_nil, ofItems, timeOfJson_normalize, toNormal_normalize]
  · simp only [List.map_cons, ofItems, timeOfJson_normalize, originOfJson_normalize,
      toNormal_normalize, List.length_map, List.isEmpty_map]

/-- The same datapoint is taken out of a document and of its normal form. -/
theorem ofJson_normalize {v : Json} (h : v.Distinct) : (ofJson v.normalize).toOption = (ofJson v).toOption := by
  cases v with
  | null | bool b | number n | string s => rfl
  | array items =>
    rw [normalize_array]
    exact congrArg Except.toOption (ofItems_map_normalize items)
  | object ms =>
    have hnodup : (names (normalizeMembers ms)).Nodup := (names_normalizeMembers ms).symm ▸ h.1
    have hperm := sortMembers_perm hnodup
    calc (ofMembers (sortMembers (normalizeMembers ms))).toOption
        = (ofMembers (normalizeMembers ms)).toOption := (ofMembers_perm hperm.symm hnodup).symm
      _ = (ofMembers ms).toOption := congrArg Except.toOption (ofMembers_normalizeMembers ms)

theorem listOfJson_normalize {v : Json} (h : v.Distinct) :
    (listOfJson v.normalize).toOption = (listOfJson v).toOption := by
  cases v with
  | null | bool b | number n | string s | object ms => rfl
  | array items =>
    have heach : ∀ item ∈ items, (ofJson item.normalize).toOption = (ofJson item).toOption :=
      fun item hitem => ofJson_normalize (distinct_items h item hitem)
    rw [normalize_array, listOfJson, listOfJson, toOption_mapM, toOption_mapM, List.mapM_map]
    exact mapM_congr heach

end Datapoint
end SeriesClient
