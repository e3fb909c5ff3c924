import SeriesClient.Url.Parser
import Mathlib.Tactic.Common

/-! Relative references with a path. One that never climbs above the place it starts from leads to what
it leads to from nowhere, put below that place; one that does climb above it leads to the same place
wherever it starts one level deep. -/

namespace SeriesClient.Url

variable {file special : Bool} {path start rest segments : List (List Char)} {segment : List Char}

theorem splitSegments_ne_nil (special : Bool) (chars : List Char) :
    splitSegments special chars ≠ [] := by
  induction chars with
  | nil => simp [splitSegments]
  | cons c chars ih =>
    rw [splitSegments]
    split_ifs
    · simp
    · cases hrest : splitSegments special chars with
      | nil => simp
      | cons segment segments => simp

theorem splitSegments_slash (chars : List Char) :
    splitSegments special (chars ++ ['/']) = splitSegments special chars ++ [[]] := by
  induction chars with
  | nil => simp [splitSegments, isSlash]
  | cons c chars ih =>
    rw [List.cons_append, splitSegments, splitSegments, ih]
    split_ifs
    · rfl
    · cases hrest : splitSegments special chars with
      | nil => exact absurd hrest (splitSegments_ne_nil special chars)
      | cons segment segments => rfl

theorem climb_append (h : path ≠ []) : climb (start ++ path) = start ++ climb path := by
  have hlast : (start ++ path).getLast? = path.getLast? := by
    rw [List.getLast?_append, List.getLast?_eq_some_getLast h, Option.some_or]
  rw [climb, climb, hlast, List.dropLast_append_of_ne_nil h]
  split_ifs <;> rfl

theorem walk_cons (h : rest ≠ []) :
    walk file path (segment :: rest) =
      if isDotDot segment then walk file (climb path) rest
      else if isDot segment then walk file path rest
      else walk file (path ++ [encodeSegment file path segment]) rest := by
  cases rest with
  | nil => exact absurd rfl h
  | cons next rest =>
    rw [walk]
    exact h

theorem walk_singleton :
    walk file path [segment] =
      if isDotDot segment then climb path ++ [[]]
      else if isDot segment then path ++ [[]]
      else path ++ [encodeSegment file path segment] := by
  rw [walk]

theorem walk_empty : walk file path [[]] = path ++ [[]] := by
  simp [walk_singleton, isDotDot, isDot, encodeSegment, isDrive, percentEncode]

theorem walk_ne_nil (file : Bool) (path : List (List Char)) (h : segments ≠ []) :
    walk file path segments ≠ [] := by
  induction segments generalizing path with
  | nil => exact absurd rfl h
  | cons segment rest ih =>
    by_cases hrest : rest = []
    · subst hrest
      rw [walk_singleton]
      split_ifs <;> simp
    · rw [walk_cons hrest]
      split_ifs
      · exact ih _ hrest
      · exact ih _ hrest
      · exact ih _ hrest

/-- With an empty segment after it, a path leads into what it leads to. -/
theorem walk_slash (file : Bool) (h : segments ≠ []) (path : List (List Char)) :
    ∃ place, walk file path (segments ++ [[]]) = place ++ [[]] ∧
      (walk file path segments = place ∨ walk file path segments = place ++ [[]]) := by
  induction segments generalizing path with
  | nil => exact absurd rfl h
  | cons segment rest ih =>
    by_cases hrest : rest = []
    · subst hrest
      have hlast : walk file path [segment] = _ := walk_singleton
      rw [List.singleton_append, walk_cons (by simp), hlast]
      split_ifs
      · exact ⟨_, walk_empty, Or.inr rfl⟩
      · exact ⟨_, walk_empty, Or.inr rfl⟩
      · exact ⟨_, walk_empty, Or.inl rfl⟩
    · rw [List.cons_append, walk_cons (by simp), walk_cons hrest]
      split_ifs
      · exact ih hrest _
      · exact ih hrest _
      · exact ih hrest _

/-- Whether segments, followed from `path` below the start, never lead above the start. -/
def stays : List (List Char) → List (List Char) → Bool
  | _, [] => true
  | path, segment :: rest =>
    if isDotDot segment then !path.isEmpty && stays (climb path) rest
    else if isDot segment then stays path rest
    else stays (path ++ [percentEncode inPathSet segment]) rest

theorem walk_of_stays (h : stays path segments = true) :
    walk false (start ++ path) segments = start ++ walk false path segments := by
  induction segments generalizing path with
  | nil => rfl
  | cons segment rest ih =>
    rw [stays] at h
    by_cases hrest : rest = []
    · subst hrest
      rw [walk_singleton, walk_singleton]
      split_ifs at h ⊢
      · have hpath : path ≠ [] := by simpa using (Bool.and_eq_true_iff.1 h).1
        rw [climb_append hpath, List.append_assoc]
      · rw [List.append_assoc]
      · rw [List.append_assoc]
        rfl
    · rw [walk_cons hrest, walk_cons hrest]
      split_ifs at h ⊢
      · obtain ⟨hpath, hstays⟩ := Bool.and_eq_true_iff.1 h
        rw [climb_append (by simpa using hpath)]
        exact ih hstays
      · exact ih h
      · rw [List.append_assoc]
        exact ih h

theorem climb_singleton (h : opensAsDrive segment = false) : climb [segment] = [] := by
  simp [climb, h]

/-- A path that leads above its start forgets what the start was. -/
theorem walk_of_not_stays (h : stays path segments = false) {s s' : List Char}
    (hs : opensAsDrive s = false) (hs' : opensAsDrive s' = false) :
    walk false (s :: path) segments = walk false (s' :: path) segments := by
  induction segments generalizing path with
  | nil => cases h
  | cons segment rest ih =>
    rw [stays] at h
    have hclimb : ∀ s, path ≠ [] → climb ([s] ++ path) = [s] ++ climb path := fun s hpath =>
      climb_append hpath
    by_cases hrest : rest = []
    · subst hrest
      rw [walk_singleton, walk_singleton]
      split_ifs at h ⊢
      · have hpath : path = [] := by simpa [stays] using h
        rw [hpath, climb_singleton hs, climb_singleton hs']
      · cases h
      · cases h
    · rw [walk_cons hrest, walk_cons hrest]
      split_ifs at h ⊢
      · by_cases hpath : path = []
        · rw [hpath, climb_singleton hs, climb_singleton hs']
        · refine (congrArg (walk false · rest) (hclimb s hpath)).trans (.trans ?_
            (congrArg (walk false · rest) (hclimb s' hpath)).symm)
          exact ih (by simpa [hpath] using h)
      · exact ih h
      · exact ih h

end SeriesClient.Url
