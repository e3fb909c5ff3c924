import SeriesClient.Proofs.Codec.Decided
import SeriesClient.Message

/-! Datapoints and updates straight from a source. Where the source stands for a document, a datapoint is
read from it if one can be taken out of the document, and that one. The fields that make up a datapoint
are read as they come, and so the document is taken as it is written. -/

namespace SeriesClient

open Json Reader
open Source (Stands StandEach StandMembers memberSlot)

namespace Datapoint

variable {k n : Nat} {t : Source} {v : Json}

theorem ofItems_of_time_error {v : Json} {cause : Mismatch} (h : timeOfJson v = .error cause)
    (vs : List Json) : (ofItems (v :: vs)).toOption = none := by
  rcases vs with _ | ⟨d, _ | ⟨o, vs⟩⟩ <;>
  · rw [ofItems, h]
    rfl

/-- A record in a list: its time, its payload and its origin, the last of which may be left out. -/
theorem outcome_readItems {gap : List Blank} {items : List (Padded Source)} {vs : List Json}
    (h : StandEach k items vs) (rest : List Glyph) :
    outcome (do let x ← readItems k; endList; pure x : Reader Datapoint) (itemsText true gap items rest) =
      (ofItems vs).toOption.map (·, rest) := by
  rw [outcome_bind, readItems]
  cases h with
  | nil =>
    rw [outcome_bind_ok nextField_none, Option.isNone_none, outcome_bind_ok nextField_none]
    rfl
  | @cons _ v _ vs ht h =>
  rw [outcome_bind, nextField_some (decides_time ht.value)]
  cases htime : timeOfJson v with
  | error cause =>
    rw [ofItems_of_time_error htime]
    rfl
  | ok time =>
  simp only [Except.toOption, Option.map_some, Option.bind_some, Option.isNone_some]
  cases h with
  | nil =>
    rw [outcome_bind_ok nextField_none, ofItems, htime]
    rfl
  | @cons _ d _ _ hd h =>
  rw [outcome_bind, nextField_some (reads_source hd).decides]
  simp only [Option.map_some, Option.bind_some]
  cases h with
  | nil =>
    rw [outcome_bind_ok nextField_none, ofItems, htime]
    exact outcome_close _
  | @cons _ o _ _ ho h =>
  rw [outcome_bind, nextField_some (decides_origin ho.value), ofItems, htime]
  cases originOfJson o with
  | error cause => rfl
  | ok origin =>
    cases h with
    | nil => exact outcome_close _
    | cons _ _ => exact outcome_close_more _ _ _

/-- A member is taken as it is taken of a document, or passed over if it is of no field. -/
theorem decides_member {m : Padded Spelling × Padded Source} (h : Stands k m.2.inside v) (name : String)
    (f : Fields) : Decides (readMember k name f) (valueChars (memberSlot m)) (f.takeMember name v).toOption := by
  rw [readMember, Fields.takeMember]
  split_ifs
  · exact fun _ _ => rfl
  · rw [toOption_map]
    exact decides_colon skips_optional.bind ((decides_time h.value).map _)
  · exact fun _ _ => rfl
  · exact decides_colon (skips_readValue k).bind ((reads_source h).decides.map _)
  · exact fun _ _ => rfl
  · rw [toOption_map]
    exact decides_colon skips_optional.bind ((decides_origin h.value).map _)
  · exact decides_colon_skip m f

theorem outcome_readObject {gap : List Blank} {members : List (Padded Spelling × Padded Source)}
    {ms : Members} (h : StandMembers k members ms) (rest : List Glyph) :
    outcome (do let x ← readObject k; endObject; pure x : Reader Datapoint)
      (membersText true gap members rest) = (ofMembers ms).toOption.map (·, rest) := by
  have heach : DecidesMembers (readMember k) (fun f m => (f.takeMember m.1 m.2).toOption) members ms :=
    h.imp fun _ _ hm => ⟨hm.1, decides_member hm.2 _⟩
  rw [outcome_bind, readObject, outcome_bind, outcome_memberSources heach, ofMembers, toOption_bind,
    toOption_foldlM]
  cases ms.foldlM (fun (f : Fields) m => (f.takeMember m.1 m.2).toOption) {} with
  | none => rfl
  | some f =>
    simp only [Option.map_some, Option.bind_some]
    cases f.finish <;> rfl

/-- A datapoint is read from a source if one can be taken of the document. -/
theorem decides_read {n : Nat} {t : Source} {v : Json} (h : Stands n t v) :
    Decides (read n) t.chars (ofJson v).toOption := by
  intro rest hrest
  obtain ⟨c, cs, hcs, hspace, hbegun⟩ := begun_of_value h.value
  have hwrong (hc : c ≠ '[' ∧ c ≠ '\x7b') : outcome (read n) (Glyph.ofChars t.chars ++ rest) = none := by
    rw [hcs, ofChars_cons, List.cons_append]
    exact outcome_record_wrong hspace hc
  cases hbegun with
  | array =>
    obtain ⟨k, vs, rfl, hvs, hitems⟩ := Source.stands_array h
    obtain rfl := Json.array.inj hvs
    rw [ofChars_itemsText, outcome, read, record_list]
    exact outcome_readItems hitems rest
  | object =>
    obtain ⟨k, ms, rfl, hms, hmembers⟩ := Source.stands_object h
    obtain rfl := Json.object.inj hms
    rw [ofChars_membersText, outcome, read, record_object]
    exact outcome_readObject hmembers rest
  | number _ hc =>
    exact hwrong ⟨ne_of_begins_number hc (by decide), ne_of_begins_number hc (by decide)⟩
  | null | yes | no | string => exact hwrong (by decide)

theorem skips_readList : Skips (readList n) := skips_token

theorem decides_readList {n : Nat} {t : Source} {v : Json} (h : Stands n t v) :
    Decides (readList n) t.chars (listOfJson v).toOption := by
  have hlist : (listOfJson v).toOption = eachOf (fun v => (ofJson v).toOption) v := by
    cases v with
    | array vs => exact toOption_mapM ofJson vs
    | null | bool b | number m | string s | object ms => rfl
  rw [hlist]
  exact decides_listOf (fun _ _ _ => decides_read) h

end Datapoint

namespace Update

variable {k n : Nat}

def Fields.takeMember (f : Fields) (name : String) (value : Json) : Option Fields :=
  if name = "stream" then
    if f.channel.isSome then none
    else (Datapoint.stringOfJson value).toOption.map fun c => { f with channel := some c }
  else if name = "data" then
    if f.points.isSome then none
    else (Datapoint.listOfJson value).toOption.map fun ps => { f with points := some ps }
  else some f

theorem decides_member {m : Padded Spelling × Padded Source} {v : Json}
    (h : Stands k m.2.inside v) (name : String) (f : Fields) :
    Decides (readMember k name f) (valueChars (memberSlot m)) (f.takeMember name v) := by
  rw [readMember, Fields.takeMember]
  split_ifs
  · exact fun _ _ => rfl
  · exact decides_colon skips_readText.bind ((decides_text h.value).map _)
  · exact fun _ _ => rfl
  · exact decides_colon Datapoint.skips_readList.bind ((Datapoint.decides_readList h).map _)
  · exact decides_colon_skip m f

def Fields.update? (f : Fields) : Option Update := f.channel.map fun c => ⟨c, f.points.getD []⟩

/-- An update in an object is read if its members make one up. -/
theorem decides_object {gap : List Blank} {members : List (Padded Spelling × Padded Source)}
    {ms : Members} (h : StandMembers k members ms) :
    Decides (read (k + 1)) (Source.object gap members).chars
      ((ms.foldlM (fun (f : Fields) m => f.takeMember m.1 m.2) {}).bind Fields.update?) := by
  intro rest _
  have heach : DecidesMembers (readMember k) (fun f m => f.takeMember m.1 m.2) members ms :=
    h.imp fun _ _ hm => ⟨hm.1, decides_member hm.2 _⟩
  rw [ofChars_membersText, outcome, read, record_object, ← outcome, outcome_bind, readObject, outcome_bind,
    outcome_memberSources heach]
  cases ms.foldlM (fun (f : Fields) m => f.takeMember m.1 m.2) {} with
  | none => rfl
  | some f =>
    obtain ⟨channel, points⟩ := f
    cases channel <;> rfl

end Update
end SeriesClient
