import SeriesClient.Proofs.Handle.Conduct
import SeriesClient.Proofs.Codec.Forms
import SeriesClient.Proofs.Decimal.Whole
import Mathlib.Data.List.DropRight

/-! Reads by index from a server that keeps a list. The server counts a negative index from the end,
brings what is outside of the list to its nearer end, and takes 0 for the end of a range, as if nothing
were said of it. A datapoint is asked for by the range from its index to the next one; the range ends
with 0 after the newest datapoint, and no range is left for the last index there is. With this the reads
find what the list has at the indices. -/

namespace SeriesClient

variable {κ α : Type}

namespace Query

/-- The place of an index in a list of `n`, a negative one being counted from the end. -/
def place (n : ℕ) (index : ℤ) : ℕ := min n (if index < 0 then n + index else index).toNat

def stop (n : ℕ) : Option ℤ → ℕ
  | none | some 0 => n
  | some last => place n last

def between (first : ℤ) (last : Option ℤ) (xs : List α) : List α :=
  (xs.take (stop xs.length last)).drop (place xs.length first)

def at? (xs : List α) (index : ℤ) : Option α :=
  if 0 ≤ index then xs[index.toNat]?
  else if -xs.length ≤ index then xs[(xs.length + index).toNat]?
  else none

/-- What there is of a list from an index on; from a negative one on there are as many as it says. -/
def onward (first : ℤ) (xs : List α) : List α :=
  if first < 0 then xs.rtake first.natAbs else xs.drop first.toNat

theorem stop_of_ne {n : ℕ} {last : ℤ} (h : last ≠ 0) : stop n (some last) = place n last := by
  unfold stop
  split
  · next hnone => cases hnone
  · next hzero => exact absurd (Option.some.inj hzero) h
  · next hsome => rw [Option.some.inj hsome]

theorem drop_take_min (xs : List α) (k : ℕ) :
    (xs.take (min xs.length (k + 1))).drop (min xs.length k) = xs[k]?.toList := by
  by_cases h : k < xs.length
  · rw [Nat.min_eq_right h, Nat.min_eq_right (Nat.le_of_lt h), List.take_add_one]
    exact List.drop_left' (List.length_take_of_le (Nat.le_of_lt h))
  · have hnone : xs[k]? = none := List.getElem?_eq_none (by omega)
    rw [hnone, Nat.min_eq_left (by omega), Nat.min_eq_left (by omega), List.take_length, List.drop_length]
    rfl

/-- The range from an index to the next one has what the list has at the index. After the newest
datapoint the next index is 0, which is where a list ends and not where it begins. -/
theorem between_next (xs : List α) (index : ℤ) :
    between index (some (index + 1)) xs = (at? xs index).toList := by
  have hplaces (k : ℕ) (hk : index = k ∨ index < 0 ∧ xs.length + index = k) :
      stop xs.length (some (index + 1)) = min xs.length (k + 1) ∧
        place xs.length index = min xs.length k := by
    constructor
    · by_cases hnewest : index = -1
      · subst hnewest
        simp only [Int.reduceNeg, Int.reduceAdd, stop]
        omega
      · rw [stop_of_ne (by omega), place]
        split_ifs <;> omega
    · unfold place
      split_ifs <;> omega
  unfold between at?
  split_ifs with hfront hback
  · obtain ⟨hstop, hplace⟩ := hplaces index.toNat (by omega)
    rw [hstop, hplace, drop_take_min]
  · obtain ⟨hstop, hplace⟩ := hplaces (xs.length + index).toNat (by omega)
    rw [hstop, hplace, drop_take_min]
  · have hstop : stop xs.length (some (index + 1)) = place xs.length (index + 1) := by
      by_cases hnewest : index = -1
      · have hempty : xs.length = 0 := by omega
        subst hnewest
        simp [stop, place, hempty]
      · exact stop_of_ne (by omega)
    apply List.drop_eq_nil_of_le
    rw [hstop, List.length_take, place]
    split_ifs <;> omega

/-- Where the end is not said, or 0, a range goes on to the end. -/
theorem between_onward (xs : List α) (first : ℤ) {last : Option ℤ} (h : last = none ∨ last = some 0) :
    between first last xs = onward first xs := by
  have hstop : stop xs.length last = xs.length := by
    rcases h with rfl | rfl <;> rfl
  unfold between onward
  rw [hstop, List.take_length, place]
  split_ifs with hneg
  · rw [List.rtake.eq_1]
    congr 1
    omega
  · by_cases hlong : first.toNat ≤ xs.length
    · rw [Nat.min_eq_right hlong]
    · rw [Nat.min_eq_left (by omega), List.drop_length, List.drop_eq_nil_of_le (by omega)]

theorem between_of_le {xs : List α} {a b : ℕ} (hab : a < b) (hb : b ≤ xs.length) :
    between a (some b) xs = (xs.take b).drop a := by
  have hplace (k : ℕ) (hk : k ≤ xs.length) : place xs.length k = k := by
    unfold place
    rw [if_neg (by omega)]
    omega
  rw [between, stop_of_ne (by omega), hplace a (by omega), hplace b hb]

/-- The indices that parameters are read as, the last of which may be missing. -/
def asked? : Parameters → Option (ℤ × Option ℤ)
  | [("i1", first)] => (Decimal.integer? first.toList).map (·, none)
  | [("i1", first), ("i2", last)] => do
    let first ← Decimal.integer? first.toList
    let last ← Decimal.integer? last.toList
    some (first, some last)
  | _ => none

theorem integer?_indexText (i : Int64) : Decimal.integer? (indexText i).toList = some i.toInt := by
  rw [indexText, String.toList_ofList, Decimal.integer?_integerChars]

theorem asked?_byIndex (first last : Int64) :
    asked? (byIndex first last).parameters = some (first.toInt, some last.toInt) := by
  change asked? [("i1", indexText first), ("i2", indexText last)] = _
  rw [asked?, integer?_indexText, integer?_indexText]
  rfl

theorem asked?_fromIndex (first : Int64) :
    asked? (fromIndex first).parameters = some (first.toInt, none) := by
  change asked? [("i1", indexText first)] = _
  rw [asked?, integer?_indexText]
  rfl

/-- Whatever indices are asked for at the path, the reply is a document of the datapoints between them. -/
def Serves (points : List Datapoint) (path : String) (replies : Replies κ) : Prop :=
  ∀ n parameters first last, asked? parameters = some (first, last) →
    ∃ answer : Json, replies n (.api (.get path parameters)) = .ok answer ∧
      answer.normalize = answer ∧ Datapoint.Forms answer (between first last points)

theorem toInt_next {i : Int64} (h : i ≠ Int64.maxValue) : (i + 1).toInt = i.toInt + 1 := by
  have hlow := i.le_toInt
  have hhigh := i.toInt_lt
  have hmax : i.toInt ≠ 2 ^ 63 - 1 := by
    intro heq
    exact h (Int64.toInt_inj.1 (heq.trans Int64.toInt_maxValue.symm))
  have hone : (1 : Int64).toInt = 1 := rfl
  rw [Int64.toInt_add, hone]
  apply Int.bmod_eq_of_le <;> omega

end Query

namespace Stream

open Query

variable {s : Stream} {points : List Datapoint} {replies : Replies κ}

/-- A query for indices finds the datapoints between them. -/
theorem hold_query_of_serves (h : Serves points s.dataPath replies) {q : Query} {first : ℤ}
    {last : Option ℤ} (hasked : asked? q.parameters = some (first, last)) :
    ((s.query q).hold replies).2 = .ok (between first last points) := by
  obtain ⟨answer, hreply, hnormal, hforms⟩ := h 0 q.parameters first last hasked
  rw [query, Exchange.hold_map, Exchange.hold_api]
  dsimp only
  rw [hreply]
  change readPoints answer = _
  rw [readPoints, (Datapoint.listOfAnswer_eq_ok_iff hnormal).2 hforms]
  rfl

theorem hold_get (h : Serves points s.dataPath replies) (hlength : points.length < 2 ^ 63) (i : Int64) :
    ((s.get i).hold replies).2 = match at? points i.toInt with
      | some p => .ok p
      | none => .error (.emptyResult i) := by
  unfold get
  split_ifs with hmax
  · have hnone : at? points i.toInt = none := by
      rw [hmax, Int64.toInt_maxValue, at?, if_pos (by decide)]
      apply List.getElem?_eq_none
      omega
    rw [hnone]
    rfl
  · have hfound := hold_query_of_serves h (asked?_byIndex i (i + 1))
    rw [toInt_next hmax, between_next] at hfound
    rw [Exchange.hold_map, hfound]
    cases at? points i.toInt <;> rfl

/-- The index after the one asked for is a number of its own: it does not wrap around. -/
theorem requested_get (s : Stream) (replies : Replies κ) (i : Int64) :
    requested ((s.get i).hold replies).1 =
      if i = Int64.maxValue then []
      else [.get s.dataPath [("i1", indexText i),
        ("i2", String.ofList (Json.integerChars (i.toInt + 1)))]] := by
  unfold get
  split_ifs with hmax
  · rfl
  · rw [← toInt_next hmax, Exchange.hold_map, query, Exchange.hold_map, Exchange.hold_api]
    rfl

/-- Reads of indices one after the other find a slice, which grows by what is at its end. -/
theorem hold_gets (h : Serves points s.dataPath replies) (hlength : points.length < 2 ^ 63) (a m : ℕ)
    (hm : a + m ≤ points.length) :
    (List.range' a m).mapM (fun k => ((s.get (Int64.ofNat k)).hold replies).2) =
      .ok ((points.take (a + m)).drop a) := by
  induction m with
  | zero =>
    have hnone : (points.take (a + 0)).drop a = [] := List.drop_eq_nil_of_le (List.length_take_le a points)
    rw [hnone]
    rfl
  | succ m ih =>
    have hlast : ((s.get (Int64.ofNat (a + m))).hold replies).2 = .ok points[a + m] := by
      have hindex : (Int64.ofNat (a + m)).toInt = (a + m : ℕ) := Int64.toInt_ofNat_of_lt (by omega)
      rw [hold_get h hlength, hindex, at?, if_pos (by omega), Int.toNat_natCast,
        List.getElem?_eq_getElem (by omega)]
    have hgrown : (points.take (a + (m + 1))).drop a = (points.take (a + m)).drop a ++ [points[a + m]] := by
      rw [← Nat.add_assoc, List.take_add_one, List.getElem?_eq_getElem (by omega)]
      apply List.drop_append_of_le_length
      rw [List.length_take_of_le] <;> omega
    rw [List.range'_concat, Nat.one_mul, List.mapM_append, ih (by omega), hgrown, List.mapM_cons, hlast]
    rfl

theorem hold_slice_onward (h : Serves points s.dataPath replies) (a : Int64) :
    ((s.slice (some a) none).hold replies).2 = .ok (onward a.toInt points) ∧
      ((s.sliceToEnd a).hold replies).2 = .ok (onward a.toInt points) := by
  constructor
  · have hzero : asked? (byIndex a 0).parameters = some (a.toInt, some 0) := asked?_byIndex a 0
    rw [← between_onward points a.toInt (.inr rfl)]
    exact hold_query_of_serves h hzero
  · rw [← between_onward points a.toInt (.inl rfl)]
    exact hold_query_of_serves h (asked?_fromIndex a)

/-- Reads by index agree with the list of a server that answers what it is asked for. A read of one
index, whichever of 64 bits, finds what the list has there, counted from the front or from the end, and
else says that there is none; it asks for the range up to the next index, or, where there is none, for
nothing. A slice inside of the list is what the reads of its indices find, in order. A slice whose end is
not said and one that is said to go to the end are the same, the list without what is before a place or
so many of its last. -/
theorem reads_agree_with_list (s : Stream) (points : List Datapoint) (replies : Replies κ)
    (h : Serves points s.dataPath replies) (hlength : points.length < 2 ^ 63) :
    (∀ i : Int64,
      ((s.get i).hold replies).2 = (match at? points i.toInt with
        | some p => .ok p
        | none => .error (.emptyResult i)) ∧
      requested ((s.get i).hold replies).1 =
        if i = Int64.maxValue then []
        else [.get s.dataPath [("i1", indexText i),
          ("i2", String.ofList (Json.integerChars (i.toInt + 1)))]]) ∧
    (∀ a b : Int64, 0 ≤ a.toInt → a.toInt < b.toInt → b.toInt ≤ points.length →
      ∃ found, ((s.slice (some a) (some b)).hold replies).2 = .ok found ∧
        (List.range' a.toInt.toNat (b.toInt - a.toInt).toNat).mapM
          (fun k => ((s.get (Int64.ofNat k)).hold replies).2) = .ok found) ∧
    ∀ a : Int64,
      ((s.slice (some a) none).hold replies).2 = .ok (onward a.toInt points) ∧
      ((s.sliceToEnd a).hold replies).2 = .ok (onward a.toInt points) := by
  refine ⟨fun i => ⟨hold_get h hlength i, requested_get s replies i⟩, ?_, hold_slice_onward h⟩
  intro a b ha hab hb
  obtain ⟨m, hm⟩ := Int.eq_ofNat_of_zero_le ha
  obtain ⟨d, hd⟩ := Int.eq_ofNat_of_zero_le (show 0 ≤ b.toInt - a.toInt by omega)
  have hlast : b.toInt = (m + d : ℕ) := by omega
  refine ⟨(points.take (m + d)).drop m, ?_, ?_⟩
  · rw [← between_of_le (by omega) (by omega), ← hm, ← hlast]
    exact hold_query_of_serves h (asked?_byIndex a b)
  · rw [hd, hm]
    exact hold_gets h hlength m d (by omega)

end Stream

namespace Query

def written (points : List Datapoint) : Json :=
  if points.isEmpty then .null else (Datapoint.listToJson points).normalize

def serving (points : List Datapoint) (path : String) : Replies κ := fun _ question =>
  match question with
  | .api (.get asked parameters) =>
    match asked? parameters with
    | some (first, last) =>
      if asked = path then .ok (written (between first last points)) else .error (.transport 404 "")
    | none => .error (.transport 400 "")
  | .api _ => .error (.transport 405 "")
  | .pushInsert _ _ => false
  | .subscribe _ _ | .unsubscribe _ => .error .pushUnavailable

theorem normalize_written (points : List Datapoint) : (written points).normalize = written points := by
  unfold written
  split_ifs
  · exact Json.normalize.eq_3
  · exact Json.normalize_normalize _

theorem forms_written {points : List Datapoint} (h : ∀ p ∈ points, p.Timed) :
    Datapoint.Forms (written points) points := by
  unfold written
  split_ifs with hempty
  · rw [List.isEmpty_iff.1 hempty]
    exact .null
  · rw [Datapoint.listToJson, Json.normalize_array, List.map_map]
    apply Datapoint.Forms.array
    rw [List.forall₂_map_left_iff, List.forall₂_same]
    intro p hp
    have hform := p.form_toJson
    rwa [Datapoint.settled_of_timed (h p hp)] at hform

theorem serves_serving {points : List Datapoint} {path : String} (h : ∀ p ∈ points, p.Timed) :
    Serves points path (serving points path : Replies κ) := by
  intro n parameters first last hasked
  refine ⟨written (between first last points), ?_, normalize_written _, forms_written fun p hp => ?_⟩
  · simp only [serving, hasked]
    exact if_pos trivial
  · exact h p (List.mem_of_mem_take (List.mem_of_mem_drop hp))

end Query

def kept : List Datapoint := [.stamped 1 .null, .stamped 2 (.bool true), .unstamped (.string "c")]

theorem kept_timed : ∀ p ∈ kept, p.Timed := by
  have hstamped (t : Float) (d : Json) (ht : t.isFinite = true) : (Datapoint.stamped t d).Timed := by
    intro t' h
    cases h
    exact ht
  rintro p (_ | ⟨_, _ | ⟨_, _ | ⟨_, hp⟩⟩⟩)
  · exact hstamped 1 .null (by decide)
  · exact hstamped 2 (.bool true) (by decide)
  · exact nofun
  · cases hp

theorem Stream.reads_agree_with_list_kept :
    let s := named "u/d/s"
    let replies : Replies Unit := Query.serving kept s.dataPath
    ((s.get 1).hold replies).2 = .ok (.stamped 2 (.bool true)) ∧
    ((s.get (-1)).hold replies).2 = .ok (.unstamped (.string "c")) ∧
    ((s.get 3).hold replies).2 = .error (.emptyResult 3) ∧
    ((s.get Int64.minValue).hold replies).2 = .error (.emptyResult Int64.minValue) ∧
    ((s.get Int64.maxValue).hold replies).2 = .error (.emptyResult Int64.maxValue) ∧
    (∃ found, ((s.slice (some 1) (some 3)).hold replies).2 = .ok found ∧
      [1, 2].mapM (fun k => ((s.get (Int64.ofNat k)).hold replies).2) = .ok found) ∧
    ((s.slice (some (-2)) none).hold replies).2 =
      .ok [.stamped 2 (.bool true), .unstamped (.string "c")] ∧
    ((s.sliceToEnd 4).hold replies).2 = .ok [] := by
  intro s replies
  obtain ⟨hget, hslice, honward⟩ := reads_agree_with_list s kept replies
    (Query.serves_serving kept_timed) (by decide)
  exact ⟨(hget 1).1, (hget (-1)).1, (hget 3).1, (hget Int64.minValue).1, (hget Int64.maxValue).1,
    hslice 1 3 (by decide) (by decide) (by decide), (honward (-2)).1, (honward 4).2⟩

end SeriesClient
