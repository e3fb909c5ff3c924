import SeriesClient.Proofs.Handle.Shelf

/-! What a handle knows of its object, told from the history of the shelf. The run lemma traces a handle
back to the operation that made it; the step lemma says what an operation must not touch. -/

namespace SeriesClient.Shelf

variable {κ : Type} {shelf shelf' : Shelf} {act : Act κ} {acts : List (Act κ)} {r : Record κ}
  {history : List (Record κ)} {i j : Nat} {h : Handle}

def lastGiven (index : Nat) (records : List (Record κ)) : Option Json.Members :=
  (records.filterMap (·.given index)).getLast?

theorem lastGiven_concat (records : List (Record κ)) (r : Record κ) :
    lastGiven i (records ++ [r]) = (r.given i).or (lastGiven i records) := by
  unfold lastGiven
  cases hgiven : r.given i <;> simp [hgiven]

/-- What an operation leaves as it was: all if it fails or is about data, else the other handles, and
the names in any case. It succeeds on a handle just if it comes by an object for it. -/
structure Spares (shelf : Shelf) (r : Record κ) (shelf' : Shelf) : Prop where
  failed : ∀ cause, r.outcome = .error cause → shelf' = shelf
  data : r.operation.IsData → shelf' = shelf
  apart : ∀ (j : Nat) (h : Handle), ¬ r.operation.Uses j →
    shelf.handles[j]? = some h → shelf'.handles[j]? = some h
  named : ∀ (j : Nat) (h : Handle), shelf.handles[j]? = some h →
    ∃ h' : Handle, shelf'.handles[j]? = some h' ∧ h'.metadata.path = h.metadata.path
  ok_iff : ∀ j, r.operation.Uses j → ¬ r.operation.IsData →
    (r.outcome = .ok () ↔ (r.given j).isSome)

theorem Made.not_uses (hmade : Made shelf r h) : ¬ r.operation.Uses j := by
  cases hmade <;> exact id

theorem Made.not_isData (hmade : Made shelf r h) : ¬ r.operation.IsData := by
  cases hmade <;> exact id

theorem Made.outcome (hmade : Made shelf r h) : r.outcome = .ok () := by
  cases hmade <;> rfl

theorem Turn.failed {cause : StreamError} (hturn : Turn shelf r shelf')
    (hcause : r.outcome = .error cause) : shelf' = shelf := by
  cases hturn with
  | make hmade =>
    rw [hmade.outcome] at hcause
    cases hcause
  | unopened => rfl
  | use hi huses hok =>
    next i h =>
    have hnone : r.given i = none := by
      by_cases hdata : r.operation.IsData
      · exact Record.given_of_isData hdata
      · rw [hcause] at hok
        simpa using hok hdata
    rw [hnone, Handle.told_none, put_self hi]

theorem Turn.data (hturn : Turn shelf r shelf') (hdata : r.operation.IsData) : shelf' = shelf := by
  cases hturn with
  | make hmade => exact absurd hdata hmade.not_isData
  | unopened => rfl
  | use hi huses hok => rw [Record.given_of_isData hdata, Handle.told_none, put_self hi]

theorem Turn.ok_iff (hturn : Turn shelf r shelf') (huses : r.operation.Uses j)
    (hdata : ¬ r.operation.IsData) : r.outcome = .ok () ↔ (r.given j).isSome := by
  cases hturn with
  | make hmade => exact absurd huses hmade.not_uses
  | unopened => cases huses
  | use hi hi' hok =>
    obtain rfl := (uses_iff hi').1 huses
    exact hok hdata

theorem Turn.spares (hturn : Turn shelf r shelf') : Spares shelf r shelf' where
  failed _ hcause := hturn.failed hcause
  data := hturn.data
  apart j h hj hh := by
    have hkept := hturn.getElem? hh
    rwa [Record.given_of_not_uses hj, Handle.told_none] at hkept
  named j h hh := ⟨_, hturn.getElem? hh, by simp⟩
  ok_iff _ := hturn.ok_iff

/-- A handle on the shelf was made in the course of the run: as new, which knows nothing, or as opened
or cloned. It has kept the name from then, and it knows the last object that it was given since, or
else what it was made with. -/
inductive Traced (acts : List (Act κ)) (history : List (Record κ)) (i : Nat) (h : Handle) : Prop where
  | since {before after : List (Act κ)} {act : Act κ} {past later : List (Record κ)} {r : Record κ}
      {earlier : Shelf} {made : Handle} (hacts : acts = before ++ act :: after)
      (hhistory : history = past ++ r :: later) (hrun : run before = some (earlier, past))
      (hop : r.operation = act.operation) (hlength : earlier.handles.length = i)
      (hmade : Made earlier r made) (hname : h.metadata.path = made.metadata.path)
      (hknown : h.metadata.document = (lastGiven i later).getD made.metadata.document)

theorem Traced.concat (htraced : Traced acts history i h) (act : Act κ) (r : Record κ) :
    Traced (acts ++ [act]) (history ++ [r]) i (h.told (r.given i)) := by
  obtain ⟨rfl, rfl, hrun, hop, hlength, hmade, hname, hknown⟩ := htraced
  refine .since (by simp; rfl) (by simp; rfl) hrun hop hlength hmade (by simpa using hname) ?_
  rw [lastGiven_concat, Handle.metadata_told, Metadata.told_document, hknown, Option.getD_or]

theorem traced_of_run (hrun : run acts = some (shelf, history)) :
    ∀ i h, shelf.handles[i]? = some h → Traced acts history i h := by
  refine runSteps_induction (P := fun acts shelf history =>
    ∀ i h, shelf.handles[i]? = some h → Traced acts history i h) ?_ ?_ hrun
  · intro i h hi
    cases hi
  · intro before earlier past act later records hbefore ih hstep i h hi
    obtain ⟨r, rfl, hop, hturn⟩ := turn_of_step hstep
    obtain ⟨k, hk, rfl⟩ | ⟨hlength, hmade⟩ := hturn.of_getElem? hi
    · exact (ih i k hk).concat act r
    · exact .since rfl rfl hbefore hop hlength hmade rfl rfl

/-- In whatever way handles are made, copied and used, and whatever is replied, each handle knows the
last object that it was given, and an operation that fails, that is about data or that is done to
another handle changes nothing of it. -/
theorem handles_mirror_answers (hrun : run acts = some (shelf, history)) :
    (∀ i h, shelf.handles[i]? = some h → Traced acts history i h) ∧
    (∀ before act after, acts = before ++ act :: after →
      ∃ earlier past r later, run before = some (earlier, past) ∧
        earlier.step act = some (later, [r]) ∧ r.operation = act.operation ∧
        Spares earlier r later) ∧
    ∀ act : Act κ, act.operation.Fits shelf →
      ∃ shelf' r, run (acts ++ [act]) = some (shelf', history ++ [r]) := by
  refine ⟨traced_of_run hrun, ?_, ?_⟩
  · rintro before act after rfl
    obtain ⟨earlier, past, rest, hbefore, hafter, -⟩ := runSteps_append_iff.1 hrun
    obtain ⟨later, records, -, hstep, -, -⟩ := runSteps_cons_iff.1 hafter
    obtain ⟨r, rfl, hop, hturn⟩ := turn_of_step hstep
    exact ⟨earlier, past, r, later, hbefore, hstep, hop, hturn.spares⟩
  · intro act hfits
    obtain ⟨shelf', r, hstep⟩ := step_of_fits hfits
    exact ⟨shelf', r, runSteps_concat_iff.2 ⟨shelf, history, [r], hrun, hstep, rfl⟩⟩

def replying (answer : Except StreamError Json) : Replies Unit := fun _ question =>
  match question with
  | .api _ => answer
  | .pushInsert _ _ => false
  | .subscribe _ _ | .unsubscribe _ => .error .connectionClosed

def actReplying (operation : Operation Unit) (answer : Except StreamError Json) : Act Unit where
  operation
  access := ⟨false, false⟩
  replies := replying answer

/-- A stream is renamed, cloned, and its clone refreshed; then comes what may not touch it. -/
def twoHandles : List (Act Unit) :=
  [actReplying (.newStream "a/b/c") (.ok .null),
    actReplying (.onStream 0 (.setNickname "mine")) (.ok (.object [("nickname", .string "ours")])),
    actReplying (.clone 0) (.ok .null),
    actReplying (.onStream 1 .refresh) (.ok (.object [("downlink", .bool true)])),
    actReplying (.onStream 0 (.create (.string "integer"))) (.ok (.object [])),
    actReplying (.onStream 0 (.setDownlink true)) (.ok .null),
    actReplying (.onStream 0 .length) (.ok (.object [("length", .null)])),
    actReplying (.onStream 1 (.watch () true)) (.ok .null),
    actReplying (.openStream "a/b/d") (.error .http),
    actReplying (.newObject "a/b") (.ok .null),
    actReplying (.onObject 2 (.replace (.object [("public", .null)]))) (.ok .null)]

theorem handles_mirror_answers_two : ∃ shelf history, run twoHandles = some (shelf, history) ∧
    shelf.handles = [.stream ⟨⟨"a/b/c", [("nickname", .string "ours")]⟩⟩,
      .stream ⟨⟨"a/b/c", [("downlink", .bool true)]⟩⟩, .object ⟨"a/b", [("public", .null)]⟩] ∧
    ∀ i h, shelf.handles[i]? = some h → Traced twoHandles history i h :=
  ⟨_, _, rfl, rfl, (handles_mirror_answers rfl).1⟩

end SeriesClient.Shelf
