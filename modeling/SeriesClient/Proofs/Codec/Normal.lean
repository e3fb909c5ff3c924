import SeriesClient.Json.Normal
import Mathlib.Data.List.Induction
import Mathlib.Data.String.Basic
import Mathlib.Data.List.Perm.Basic
import Mathlib.Tactic.Common

/-! Documents in normal form. Putting the members of an object into order by name changes none of them
as long as no two have one name, and does nothing to members that are in order; so what is in normal
form stays as it is. -/

namespace SeriesClient.Json

variable {name : String} {value : Json} {members : Members}

def names (members : Members) : List String := members.map Prod.fst

theorem put_perm (h : name ∉ names members) : (put name value members).Perm ((name, value) :: members) := by
  induction members with
  | nil => exact .refl _
  | cons m members ih =>
    obtain ⟨n, v⟩ := m
    obtain ⟨hn, hmembers⟩ : name ≠ n ∧ name ∉ names members := by simpa [names] using h
    rw [put, if_neg hn]
    split_ifs
    · exact .refl _
    · exact ((ih hmembers).cons _).trans (.swap _ _ _)

theorem sortMembers_concat (members : Members) (m : String × Json) :
    sortMembers (members ++ [m]) = put m.1 m.2 (sortMembers members) := by
  rw [sortMembers, List.foldl_append]
  rfl

/-- Nothing is lost where no two members have one name. -/
theorem sortMembers_perm (h : (names members).Nodup) : (sortMembers members).Perm members := by
  induction members using List.reverseRecOn with
  | nil => exact .refl _
  | append_singleton members m ih =>
    rw [names, List.map_append] at h
    obtain ⟨hmembers, -, hfresh⟩ := List.nodup_append.1 h
    have hperm := ih hmembers
    have hm : m.1 ∉ names (sortMembers members) := fun hm =>
      hfresh m.1 ((hperm.map Prod.fst).mem_iff.1 hm) m.1 (by simp) rfl
    rw [sortMembers_concat]
    exact (put_perm hm).trans ((hperm.cons m).trans (List.perm_append_singleton m members).symm)

theorem nodup_of_rising (h : Rising members) : (names members).Nodup :=
  List.pairwise_map.2 (h.imp ne_of_lt)

@[simp] theorem names_normalizeMembers (members : Members) :
    names (normalizeMembers members) = names members := by
  rw [normalizeMembers_eq, names, List.map_map]
  rfl

theorem normalize_array (items : List Json) : (array items).normalize = array (items.map normalize) := by
  rw [normalize, normalizeItems_eq]

theorem normalize_ofFloat (t : Float) : (ofFloat t).normalize = ofFloat t := by
  unfold ofFloat
  split_ifs <;> rw [normalize]

theorem normalize_string (s : String) : (string s).normalize = string s := by rw [normalize]

theorem items_of_normal {items : List Json} (h : (array items).normalize = array items) :
    ∀ item ∈ items, item.normalize = item := by
  rw [normalize_array, array.injEq] at h
  intro item hitem
  rw [← h] at hitem
  obtain ⟨original, -, rfl⟩ := List.mem_map.1 hitem
  exact normalize_normalize original

theorem members_of_normal (h : (object members).normalize = object members) :
    Rising members ∧ ∀ m ∈ members, m.2.normalize = m.2 := by
  rw [normalize, object.injEq] at h
  constructor
  · rw [← h]
    exact rising_sortMembers _
  · intro m hm
    rw [← h] at hm
    exact normalize_members members m (mem_of_mem_sortMembers hm)

theorem lookup_eq_none_iff : lookup name members = none ↔ name ∉ names members := by
  induction members with
  | nil => simp [lookup, names]
  | cons m members ih =>
    obtain ⟨n, v⟩ := m
    rw [lookup]
    split_ifs with hn
    · simp [names, hn]
    · rw [ih]
      simp [names, Ne.symm hn]

theorem lookup_eq_some_iff (h : (names members).Nodup) :
    lookup name members = some value ↔ (name, value) ∈ members := by
  induction members with
  | nil => simp [lookup]
  | cons m members ih =>
    obtain ⟨n, v⟩ := m
    obtain ⟨hfresh, hmembers⟩ := List.nodup_cons.1 h
    rw [lookup, List.mem_cons, Prod.mk.injEq]
    split_ifs with hn
    · subst hn
      have hnotin : (n, value) ∉ members := fun hmem =>
        hfresh (List.mem_map.2 ⟨(n, value), hmem, rfl⟩)
      simp [hnotin, eq_comm]
    · rw [ih hmembers]
      simp [Ne.symm hn]

theorem lookup_perm {members' : Members} (hperm : members.Perm members')
    (h : (names members).Nodup) : lookup name members = lookup name members' := by
  have h' : (names members').Nodup := (hperm.map Prod.fst).nodup_iff.1 h
  apply Option.ext
  intro v
  rw [lookup_eq_some_iff h, lookup_eq_some_iff h', hperm.mem_iff]

theorem lookup_normalizeMembers :
    lookup name (normalizeMembers members) = (lookup name members).map normalize := by
  induction members with
  | nil => rfl
  | cons m members ih =>
    obtain ⟨n, v⟩ := m
    rw [normalizeMembers, lookup, lookup, ih]
    split_ifs <;> rfl

/-- The value of a member in normal form is the normal form of its value. -/
theorem lookup_sorted (h : (names members).Nodup) :
    lookup name (sortMembers (normalizeMembers members)) = (lookup name members).map normalize := by
  have hnodup : (names (normalizeMembers members)).Nodup := (names_normalizeMembers members).symm ▸ h
  rw [← lookup_perm (sortMembers_perm hnodup).symm hnodup, lookup_normalizeMembers]

theorem lookup_concat (m : String × Json) :
    lookup name (members ++ [m]) = (lookup name members).or (if m.1 = name then some m.2 else none) := by
  induction members with
  | nil => rfl
  | cons m' members ih =>
    obtain ⟨n, v⟩ := m'
    rw [List.cons_append, lookup, lookup, ih]
    split_ifs <;> rfl

end SeriesClient.Json
