import SeriesClient.Proofs.Steps
import SeriesClient.Proofs.Handle.Use

/-! Handles on a shelf. A client makes handles on streams and on other objects, copies them and uses
them, one operation after another and in any order, with any replies to what is asked. A handle knows
the last object that it was given since it was made, or else what it was made with. -/

namespace SeriesClient

variable {κ : Type}

inductive Handle where
  | stream (stream : Stream)
  | object (object : Metadata)

namespace Handle

def metadata : Handle → Metadata
  | stream s => s.object
  | object m => m

def told (members : Option Json.Members) : Handle → Handle
  | stream s => stream ⟨s.object.told members⟩
  | object m => object (m.told members)

@[simp] theorem metadata_told (members : Option Json.Members) (h : Handle) :
    (h.told members).metadata = h.metadata.told members := by
  cases h <;> rfl

@[simp] theorem told_none (h : Handle) : h.told none = h := by
  cases h <;> rfl

end Handle

/-- What a client does. Handles have numbers, in the order in which they were made. -/
inductive Operation (κ : Type) where
  | newStream (name : String)
  | openStream (name : String)
  | newObject (path : String)
  | clone (index : Nat)
  | onStream (index : Nat) (use : StreamUse κ)
  | onObject (index : Nat) (use : ObjectUse)

structure Act (κ : Type) where
  operation : Operation κ
  access : Access
  replies : Replies κ

structure Record (κ : Type) where
  operation : Operation κ
  said : List (Exchanged κ)
  outcome : Except StreamError Unit

structure Shelf where
  handles : List Handle := []

namespace Operation

def Uses (index : Nat) : Operation κ → Prop
  | onStream i _ | onObject i _ => i = index
  | _ => False

def IsData : Operation κ → Prop
  | onStream _ use => use.isMetadata = false
  | _ => False

/-- There is a handle of the right kind to do it to, if it is done to a handle. -/
def Fits (shelf : Shelf) : Operation κ → Prop
  | clone i => ∃ h, shelf.handles[i]? = some h
  | onStream i _ => ∃ s, shelf.handles[i]? = some (.stream s)
  | onObject i _ => ∃ m, shelf.handles[i]? = some (.object m)
  | _ => True

end Operation

/-- The object that the handle with this number was given: by the API, or by its caller. -/
def Record.given (index : Nat) (r : Record κ) : Option Json.Members :=
  match r.operation with
  | .onStream i use => if i = index then use.given r.said else none
  | .onObject i use => if i = index then use.given r.said else none
  | _ => none

namespace Shelf

def add (shelf : Shelf) (h : Handle) : Shelf := { shelf with handles := shelf.handles ++ [h] }

def put (shelf : Shelf) (index : Nat) (h : Handle) : Shelf :=
  { shelf with handles := shelf.handles.set index h }

def step (shelf : Shelf) (act : Act κ) : Option (Shelf × List (Record κ)) :=
  match act.operation with
  | .newStream name =>
    some (shelf.add (.stream (.named name)), [⟨act.operation, [], .ok ()⟩])
  | .openStream name =>
    let (said, result) := (Stream.opened name).hold act.replies
    match result with
    | .ok s => some (shelf.add (.stream s), [⟨act.operation, said, .ok ()⟩])
    | .error cause => some (shelf, [⟨act.operation, said, .error cause⟩])
  | .newObject path => some (shelf.add (.object ⟨path, []⟩), [⟨act.operation, [], .ok ()⟩])
  | .clone i =>
    match shelf.handles[i]? with
    | some h => some (shelf.add h, [⟨act.operation, [], .ok ()⟩])
    | none => none
  | .onStream i use =>
    match shelf.handles[i]? with
    | some (.stream s) =>
      let (said, s, outcome) := (use.run act.access s).hold act.replies
      some (shelf.put i (.stream s), [⟨act.operation, said, outcome⟩])
    | _ => none
  | .onObject i use =>
    match shelf.handles[i]? with
    | some (.object m) =>
      let (said, m, outcome) := (use.run m).hold act.replies
      some (shelf.put i (.object m), [⟨act.operation, said, outcome⟩])
    | _ => none

def run (acts : List (Act κ)) : Option (Shelf × List (Record κ)) := runSteps step {} acts

inductive Made (shelf : Shelf) : Record κ → Handle → Prop where
  | newStream {name : String} :
      Made shelf ⟨.newStream name, [], .ok ()⟩ (.stream ⟨⟨name, []⟩⟩)
  | newObject {path : String} : Made shelf ⟨.newObject path, [], .ok ()⟩ (.object ⟨path, []⟩)
  | openStream {name : String} {said : List (Exchanged κ)} {members : Json.Members}
      (h : received said = some members) :
      Made shelf ⟨.openStream name, said, .ok ()⟩ (.stream ⟨⟨name, members⟩⟩)
  | clone {i : Nat} {h : Handle} (hi : shelf.handles[i]? = some h) :
      Made shelf ⟨.clone i, [], .ok ()⟩ h

/-- What one operation can do to the shelf. -/
inductive Turn (shelf : Shelf) : Record κ → Shelf → Prop where
  | make {r : Record κ} {h : Handle} (hmade : Made shelf r h) : Turn shelf r (shelf.add h)
  | unopened {name : String} {said : List (Exchanged κ)} {cause : StreamError} :
      Turn shelf ⟨.openStream name, said, .error cause⟩ shelf
  | use {r : Record κ} {i : Nat} {h : Handle} (hi : shelf.handles[i]? = some h)
      (huses : r.operation.Uses i)
      (hok : ¬ r.operation.IsData → (r.outcome = .ok () ↔ (r.given i).isSome)) :
      Turn shelf r (shelf.put i (h.told (r.given i)))

end Shelf

variable {shelf shelf' : Shelf} {act : Act κ} {r : Record κ} {records : List (Record κ)} {i j : Nat}
  {h h' : Handle}

namespace Record

theorem given_of_not_uses (hj : ¬ r.operation.Uses j) : r.given j = none := by
  unfold given
  cases hop : r.operation with
  | onStream i use | onObject i use =>
    rw [hop] at hj
    exact if_neg hj
  | _ => rfl

theorem given_of_isData (hdata : r.operation.IsData) : r.given j = none := by
  unfold given
  cases hop : r.operation with
  | onStream i use =>
    rw [hop] at hdata
    have hnone : use.given r.said = none := if_neg (by simpa [Operation.IsData] using hdata)
    simp only [hnone, ite_self]
  | onObject i use =>
    rw [hop] at hdata
    cases hdata
  | _ => rfl

end Record

namespace Shelf

theorem turn_onStream {s : Stream} (hi : shelf.handles[i]? = some (.stream s)) (use : StreamUse κ)
    (access : Access) (replies : Replies κ) :
    Turn shelf ⟨.onStream i use, ((use.run access s).hold replies).1,
        ((use.run access s).hold replies).2.2⟩
      (shelf.put i (.stream ((use.run access s).hold replies).2.1)) := by
  have hgiven : Record.given i ⟨.onStream i use, ((use.run access s).hold replies).1,
      ((use.run access s).hold replies).2.2⟩ = use.given ((use.run access s).hold replies).1 :=
    if_pos rfl
  have htold : Handle.stream ((use.run access s).hold replies).2.1 =
      (Handle.stream s).told (use.given ((use.run access s).hold replies).1) :=
    congrArg (fun m => Handle.stream ⟨m⟩) (use.object_run access s replies)
  rw [htold, ← hgiven]
  refine .use hi rfl fun hdata => ?_
  have huse : use.isMetadata = true := by simpa [Operation.IsData] using hdata
  rw [hgiven, StreamUse.given, if_pos huse]
  exact (StreamUse.teaches_run huse access s replies).ok_iff

theorem turn_onObject {m : Metadata} (hi : shelf.handles[i]? = some (.object m)) (use : ObjectUse)
    (replies : Replies κ) :
    Turn shelf ⟨.onObject i use, ((use.run m).hold replies).1, ((use.run m).hold replies).2.2⟩
      (shelf.put i (.object ((use.run m).hold replies).2.1)) := by
  have hlearns := use.learns_run m replies
  have hgiven : Record.given i ⟨.onObject i use, ((use.run m).hold replies).1,
      ((use.run m).hold replies).2.2⟩ = use.given ((use.run m).hold replies).1 := if_pos rfl
  have htold : Handle.object ((use.run m).hold replies).2.1 =
      (Handle.object m).told (use.given ((use.run m).hold replies).1) :=
    congrArg Handle.object hlearns.metadata
  rw [htold, ← hgiven]
  refine .use hi rfl fun _ => ?_
  rw [hgiven]
  exact hlearns.ok_iff

theorem turn_of_step (hstep : shelf.step act = some (shelf', records)) :
    ∃ r, records = [r] ∧ r.operation = act.operation ∧ Turn shelf r shelf' := by
  obtain ⟨operation, access, replies⟩ := act
  cases operation with
  | newStream name =>
    obtain ⟨rfl, rfl⟩ := by simpa [step] using hstep
    exact ⟨_, rfl, rfl, .make .newStream⟩
  | openStream name =>
    simp only [step] at hstep
    split at hstep
    · next s hs =>
      obtain ⟨rfl, rfl⟩ := by simpa using hstep
      obtain ⟨members, hmembers, rfl⟩ := Stream.opened_ok hs
      exact ⟨_, rfl, rfl, .make (.openStream hmembers)⟩
    · next cause _ =>
      obtain ⟨rfl, rfl⟩ := by simpa using hstep
      exact ⟨_, rfl, rfl, .unopened⟩
  | newObject path =>
    obtain ⟨rfl, rfl⟩ := by simpa [step] using hstep
    exact ⟨_, rfl, rfl, .make .newObject⟩
  | clone i =>
    simp only [step] at hstep
    split at hstep
    · next h hi =>
      obtain ⟨rfl, rfl⟩ := by simpa using hstep
      exact ⟨_, rfl, rfl, .make (.clone hi)⟩
    · cases hstep
  | onStream i use =>
    simp only [step] at hstep
    split at hstep
    · next s hi =>
      obtain ⟨rfl, rfl⟩ := by simpa using hstep
      exact ⟨_, rfl, rfl, turn_onStream hi use access replies⟩
    · cases hstep
  | onObject i use =>
    simp only [step] at hstep
    split at hstep
    · next m hi =>
      obtain ⟨rfl, rfl⟩ := by simpa using hstep
      exact ⟨_, rfl, rfl, turn_onObject hi use replies⟩
    · cases hstep

/-- Whatever is replied, an operation that fits comes to its end. -/
theorem step_of_fits (hfits : act.operation.Fits shelf) :
    ∃ shelf' r, shelf.step act = some (shelf', [r]) := by
  obtain ⟨operation, access, replies⟩ := act
  cases operation with
  | newStream name => exact ⟨_, _, rfl⟩
  | newObject path => exact ⟨_, _, rfl⟩
  | openStream name =>
    simp only [step]
    split <;> exact ⟨_, _, rfl⟩
  | clone i =>
    obtain ⟨h, hi⟩ := hfits
    simp only [step, hi]
    exact ⟨_, _, rfl⟩
  | onStream i use =>
    obtain ⟨s, hi⟩ := hfits
    simp only [step, hi]
    exact ⟨_, _, rfl⟩
  | onObject i use =>
    obtain ⟨m, hi⟩ := hfits
    simp only [step, hi]
    exact ⟨_, _, rfl⟩

theorem put_self (hi : shelf.handles[i]? = some h) : shelf.put i h = shelf := by
  obtain ⟨hlt, rfl⟩ := List.getElem?_eq_some_iff.1 hi
  simp [put]

theorem getElem?_put_self (hi : shelf.handles[i]? = some h) (h' : Handle) :
    (shelf.put i h').handles[i]? = some h' := by
  obtain ⟨hlt, -⟩ := List.getElem?_eq_some_iff.1 hi
  simp [put, hlt]

theorem getElem?_put_of_ne (hij : i ≠ j) (h : Handle) :
    (shelf.put i h).handles[j]? = shelf.handles[j]? := by
  simp [put, hij]

theorem uses_iff (hi : r.operation.Uses i) : r.operation.Uses j ↔ i = j := by
  cases hop : r.operation with
  | onStream k use | onObject k use =>
    rw [hop] at hi
    obtain rfl : k = i := hi
    rfl
  | _ =>
    rw [hop] at hi
    cases hi

/-- A handle goes on with what it was given. -/
theorem Turn.getElem? (hturn : Turn shelf r shelf') (hj : shelf.handles[j]? = some h) :
    shelf'.handles[j]? = some (h.told (r.given j)) := by
  cases hturn with
  | make hmade =>
    have hnone : r.given j = none := by
      apply Record.given_of_not_uses
      cases hmade <;> exact id
    obtain ⟨hlt, -⟩ := List.getElem?_eq_some_iff.1 hj
    rw [hnone, Handle.told_none, add, List.getElem?_append_left hlt, hj]
  | unopened => rw [Record.given_of_not_uses id, Handle.told_none, hj]
  | use hi huses hok =>
    next i k =>
    by_cases hij : i = j
    · subst hij
      obtain rfl := Option.some.inj (hi.symm.trans hj)
      exact getElem?_put_self hi _
    · rw [getElem?_put_of_ne hij, Record.given_of_not_uses (mt (uses_iff huses).1 hij),
        Handle.told_none, hj]

theorem Turn.of_getElem? (hturn : Turn shelf r shelf') (hj : shelf'.handles[j]? = some h') :
    (∃ h, shelf.handles[j]? = some h ∧ h' = h.told (r.given j)) ∨
      (shelf.handles.length = j ∧ Made shelf r h') := by
  cases hold : shelf.handles[j]? with
  | some h =>
    have hkept := hturn.getElem? hold
    exact Or.inl ⟨h, rfl, Option.some.inj (hj.symm.trans hkept)⟩
  | none =>
    cases hturn with
    | make hmade =>
      obtain hold' | ⟨hlen, rfl⟩ := of_getElem?_concat hj
      · rw [hold] at hold'
        cases hold'
      · exact Or.inr ⟨hlen.symm, hmade⟩
    | unopened =>
      rw [hold] at hj
      cases hj
    | use hi huses hok =>
      next i k =>
      have hij : i ≠ j := by
        rintro rfl
        rw [hi] at hold
        cases hold
      rw [getElem?_put_of_ne hij, hold] at hj
      cases hj

end Shelf
end SeriesClient
