/-! Who is called for what is pushed on a channel. A channel has one callback at most. -/

namespace SeriesClient.Push

/-- Channels with their callbacks, each channel once. -/
abbrev Registry (κ : Type) := List (String × κ)

namespace Registry

variable {κ : Type}

def find? (r : Registry κ) (channel : String) : Option κ :=
  match r with
  | [] => none
  | (c, k) :: rest => if c = channel then some k else find? rest channel

def add (r : Registry κ) (channel : String) (callback : κ) : Registry κ :=
  match r with
  | [] => [(channel, callback)]
  | (c, k) :: rest =>
    if c = channel then (channel, callback) :: rest else (c, k) :: add rest channel callback

def remove (r : Registry κ) (channel : String) : Registry κ := r.filter (·.1 != channel)

def channels (r : Registry κ) : List String := r.map (·.1)

def contains (r : Registry κ) (channel : String) : Bool := (r.find? channel).isSome

theorem find?_add_self (r : Registry κ) (c : String) (k : κ) : (r.add c k).find? c = some k := by
  fun_induction add r c k with
  | case1 => simp [find?]
  | case2 => simp [find?]
  | case3 c' _ _ hne ih => simp [find?, hne, ih]

theorem find?_add_of_ne {c d : String} (h : d ≠ c) (r : Registry κ) (k : κ) :
    (r.add c k).find? d = r.find? d := by
  fun_induction add r c k with
  | case1 => simp [find?, Ne.symm h]
  | case2 => simp [find?, Ne.symm h]
  | case3 c' _ _ _ ih => by_cases hd : c' = d <;> simp [find?, hd, ih]

theorem find?_remove_self (r : Registry κ) (c : String) : (r.remove c).find? c = none := by
  induction r with
  | nil => rfl
  | cons entry rest ih =>
    by_cases h : entry.1 = c
    · simpa [remove, h] using ih
    · have hd : (remove (entry :: rest) c) = entry :: remove rest c := by simp [remove, h]
      rw [hd, find?, if_neg h, ih]

theorem find?_remove_of_ne {c d : String} (h : d ≠ c) (r : Registry κ) :
    (r.remove c).find? d = r.find? d := by
  induction r with
  | nil => rfl
  | cons entry rest ih =>
    by_cases hc : entry.1 = c
    · have hd : remove (entry :: rest) c = remove rest c := by simp [remove, hc]
      rw [hd, ih, find?, if_neg (by rw [hc]; exact Ne.symm h)]
    · have hd : remove (entry :: rest) c = entry :: remove rest c := by simp [remove, hc]
      rw [hd, find?, find?, ih]

theorem mem_channels_iff (r : Registry κ) (c : String) : c ∈ r.channels ↔ r.contains c = true := by
  induction r with
  | nil => simp [channels, contains, find?]
  | cons entry rest ih =>
    simp only [channels, contains] at ih
    by_cases h : entry.1 = c
    · simp [channels, contains, find?, h]
    · simp [channels, contains, find?, h, Ne.symm h, ih]

theorem mem_channels_add (r : Registry κ) (c d : String) (k : κ) :
    d ∈ (r.add c k).channels ↔ d = c ∨ d ∈ r.channels := by
  by_cases h : d = c
  · simp [mem_channels_iff, contains, h, find?_add_self]
  · simp [mem_channels_iff, contains, h, find?_add_of_ne h]

theorem mem_channels_remove (r : Registry κ) (c d : String) :
    d ∈ (r.remove c).channels ↔ d ≠ c ∧ d ∈ r.channels := by
  by_cases h : d = c
  · simp [mem_channels_iff, contains, h, find?_remove_self]
  · simp [mem_channels_iff, contains, h, find?_remove_of_ne h]

/-- A channel that was there keeps its place, and a new one comes last. -/
theorem channels_add (r : Registry κ) (c : String) (k : κ) :
    (r.add c k).channels = if c ∈ r.channels then r.channels else r.channels ++ [c] := by
  fun_induction add r c k with
  | case1 => rfl
  | case2 => simp [channels]
  | case3 c' k' rest hne ih =>
    simp only [channels, List.map_cons, List.mem_cons, Ne.symm hne, false_or] at ih ⊢
    rw [ih]
    by_cases hc : c ∈ rest.map (·.1) <;> simp [hc]

theorem nodup_channels_add {r : Registry κ} (h : r.channels.Nodup) (c : String) (k : κ) :
    (r.add c k).channels.Nodup := by
  rw [channels_add]
  split
  · exact h
  · next hc =>
    refine List.nodup_append.2 ⟨h, by simp, ?_⟩
    rintro d hd _ hmem rfl
    exact hc (List.mem_singleton.1 hmem ▸ hd)

theorem nodup_channels_remove {r : Registry κ} (h : r.channels.Nodup) (c : String) :
    (r.remove c).channels.Nodup :=
  h.sublist (List.filter_sublist.map _)

theorem mem_of_find? {r : Registry κ} {c : String} {k : κ} (h : r.find? c = some k) :
    (c, k) ∈ r := by
  induction r with
  | nil => cases h
  | cons entry rest ih =>
    rw [find?] at h
    split at h
    · next hc =>
      obtain rfl := Option.some.inj h
      subst hc
      exact List.mem_cons_self
    · exact List.mem_cons_of_mem _ (ih h)

theorem find?_of_mem {r : Registry κ} {c : String} {k : κ} (hnodup : r.channels.Nodup)
    (h : (c, k) ∈ r) : r.find? c = some k := by
  induction r with
  | nil => cases h
  | cons entry rest ih =>
    obtain ⟨hnew, hrest⟩ := List.nodup_cons.1 hnodup
    rcases List.mem_cons.1 h with rfl | hmem
    · simp [find?]
    · have hne : entry.1 ≠ c := by
        rintro rfl
        exact hnew (List.mem_map.2 ⟨_, hmem, rfl⟩)
      rw [find?, if_neg hne]
      exact ih hrest hmem

end Registry
end SeriesClient.Push
