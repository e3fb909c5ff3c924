import SeriesClient.Json.Basic

/-! Documents in normal form. Putting the members of an object into order by name does nothing to members
that are in order, so what is in normal form stays as it is. -/

namespace SeriesClient.Json

variable {name : String} {value : Json} {members : Members}

/-- The members stand in rising order of their names. -/
def Rising (members : Members) : Prop := members.Pairwise fun m m' => m.1 < m'.1

theorem mem_put {m : String × Json} (h : m ∈ put name value members) :
    m = (name, value) ∨ m ∈ members := by
  induction members with
  | nil => exact Or.inl (List.mem_singleton.1 h)
  | cons m' members ih =>
    obtain ⟨n, v⟩ := m'
    rw [put] at h
    split at h
    · exact List.mem_cons.1 h
    · split at h
      · exact (List.mem_cons.1 h).imp_right (List.mem_cons_of_mem _)
      · rcases List.mem_cons.1 h with rfl | h
        · exact Or.inr List.mem_cons_self
        · exact (ih h).imp_right (List.mem_cons_of_mem _)

theorem rising_put (h : Rising members) : Rising (put name value members) := by
  induction members with
  | nil => exact List.pairwise_singleton _ _
  | cons m members ih =>
    obtain ⟨n, v⟩ := m
    obtain ⟨hn, hmembers⟩ := List.pairwise_cons.1 h
    rw [put]
    split
    · next hlt =>
      refine List.pairwise_cons.2 ⟨fun m' hm' => ?_, h⟩
      rcases List.mem_cons.1 hm' with rfl | hm'
      · exact hlt
      · exact String.lt_trans hlt (hn m' hm')
    · next hlt =>
      split
      · next heq =>
        subst heq
        exact List.pairwise_cons.2 ⟨hn, hmembers⟩
      · next hne =>
        refine List.pairwise_cons.2 ⟨fun m' hm' => ?_, ih hmembers⟩
        rcases mem_put hm' with rfl | hm'
        · exact Std.lt_of_le_of_ne (String.not_lt.1 hlt) (Ne.symm hne)
        · exact hn m' hm'

/-- A name behind all others comes last. -/
theorem put_of_last (h : ∀ m ∈ members, m.1 < name) :
    put name value members = members ++ [(name, value)] := by
  induction members with
  | nil => rfl
  | cons m members ih =>
    obtain ⟨n, v⟩ := m
    obtain ⟨hn, hmembers⟩ := List.forall_mem_cons.1 h
    have hne : name ≠ n := fun he => String.lt_irrefl n (he ▸ hn)
    rw [put, if_neg (String.lt_asymm hn), if_neg hne, ih hmembers, List.cons_append]

theorem rising_foldl_put (h : Rising members) (more : Members) :
    Rising (more.foldl (fun sorted m => put m.1 m.2 sorted) members) := by
  induction more generalizing members with
  | nil => exact h
  | cons m more ih => exact ih (rising_put h)

theorem rising_sortMembers (members : Members) : Rising (sortMembers members) :=
  rising_foldl_put .nil members

theorem mem_of_mem_foldl_put {m : String × Json} {more : Members}
    (h : m ∈ more.foldl (fun sorted m => put m.1 m.2 sorted) members) : m ∈ members ∨ m ∈ more := by
  induction more generalizing members with
  | nil => exact Or.inl h
  | cons m' more ih =>
    rcases ih h with h | h
    · rcases mem_put h with rfl | h
      · exact Or.inr List.mem_cons_self
      · exact Or.inl h
    · exact Or.inr (List.mem_cons_of_mem _ h)

theorem mem_of_mem_sortMembers {m : String × Json} (h : m ∈ sortMembers members) : m ∈ members :=
  (mem_of_mem_foldl_put h).resolve_left List.not_mem_nil

theorem foldl_put_of_rising {more : Members} (h : Rising (members ++ more)) :
    more.foldl (fun sorted m => put m.1 m.2 sorted) members = members ++ more := by
  induction more generalizing members with
  | nil => exact (List.append_nil members).symm
  | cons m more ih =>
    have hlast : ∀ m' ∈ members, m'.1 < m.1 := fun m' hm' =>
      (List.pairwise_append.1 h).2.2 m' hm' m List.mem_cons_self
    rw [List.append_cons] at h ⊢
    rw [List.foldl_cons, put_of_last hlast, ih h]

theorem sortMembers_of_rising (h : Rising members) : sortMembers members = members :=
  @foldl_put_of_rising [] members h

theorem normalizeItems_eq (items : List Json) : normalizeItems items = items.map normalize := by
  induction items with
  | nil => rfl
  | cons item items ih => rw [normalizeItems, ih, List.map_cons]

theorem normalizeMembers_eq (members : Members) :
    normalizeMembers members = members.map fun m => (m.1, m.2.normalize) := by
  induction members with
  | nil => rfl
  | cons m members ih => rw [normalizeMembers, ih, List.map_cons]

theorem normalizeMembers_of_fixed (h : ∀ m ∈ members, m.2.normalize = m.2) :
    normalizeMembers members = members := by
  induction members with
  | nil => rfl
  | cons m members ih =>
    obtain ⟨n, v⟩ := m
    obtain ⟨hv, hmembers⟩ := List.forall_mem_cons.1 h
    rw [normalizeMembers, hv, ih hmembers]

/-- The values of the members being in normal form, only their order can change. -/
theorem normalize_object_of_fixed (h : ∀ m ∈ members, m.2.normalize = m.2) :
    (object members).normalize = object (sortMembers members) := by
  rw [normalize, normalizeMembers_of_fixed h]

mutual

/-- What is in normal form stays as it is. -/
theorem normalize_normalize : ∀ d : Json, d.normalize.normalize = d.normalize
  | array items => by
    rw [normalize, normalize, normalizeItems_normalizeItems items]
  | object members => by
    have hfixed : ∀ m ∈ sortMembers (normalizeMembers members), m.2.normalize = m.2 := fun m hm =>
      normalize_members members m (mem_of_mem_sortMembers hm)
    rw [normalize, normalize_object_of_fixed hfixed,
      sortMembers_of_rising (rising_sortMembers _)]
  | null | bool _ | number _ | string _ => by simp only [normalize]

theorem normalizeItems_normalizeItems : ∀ items : List Json,
    normalizeItems (normalizeItems items) = normalizeItems items
  | [] => rfl
  | item :: items => by
    rw [normalizeItems, normalizeItems, normalize_normalize item,
      normalizeItems_normalizeItems items]

theorem normalize_members : ∀ members : Members, ∀ m ∈ normalizeMembers members,
    m.2.normalize = m.2
  | [] => nofun
  | (name, value) :: members => fun m hm => by
    rw [normalizeMembers] at hm
    rcases List.mem_cons.1 hm with rfl | hm
    · exact normalize_normalize value
    · exact normalize_members members m hm

end

/-- A document of which all objects have their members in order by name, each name once. -/
structure Normal where
  json : Json
  sorted : json.normalize = json

def toNormal (d : Json) : Normal := ⟨d.normalize, d.normalize_normalize⟩

namespace Normal

instance : Coe Json Normal := ⟨toNormal⟩

instance : CoeOut Normal Json := ⟨json⟩

instance : BEq Normal := ⟨fun d d' => d.json == d'.json⟩

attribute [simp] sorted

@[ext] theorem ext {d d' : Normal} (h : d.json = d'.json) : d = d' := by
  cases d
  cases d'
  cases h
  rfl

@[simp] theorem toNormal_json (d : Normal) : d.json.toNormal = d := ext d.sorted

end Normal

@[simp] theorem toNormal_normalize (d : Json) : d.normalize.toNormal = d.toNormal :=
  Normal.ext d.normalize_normalize

@[simp] theorem json_toNormal (d : Json) : d.toNormal.json = d.normalize := rfl

end SeriesClient.Json
