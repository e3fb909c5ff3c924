/-! Patterns that may look around, and back at what a group has matched. The parts of a term that do no
such thing are matched apart, each as a plain pattern, and such a part may not grow too large. -/

namespace SeriesClient.Schema.Pattern

inductive Term where
  | empty
  /-- One character, of so many bytes. -/
  | char (bytes : Nat)
  | any
  /-- A place. At the side of a word it takes looking at both sides. -/
  | place (looking : Bool)
  /-- One character of a class that takes so much room. -/
  | characters (room : Nat)
  | sequence (terms : List Term)
  | choice (terms : List Term)
  | group (number : Nat) (term : Term)
  | look (behind : Bool) (term : Term)
  | repeated (term : Term) (least : Nat) (most : Option Nat)
  /-- What it has matched once is not given back. -/
  | atomic (term : Term)
  /-- What a group has matched, once more. -/
  | again
  /-- A condition or a mark that takes no characters. -/
  | mark
  | conditional (condition yes no : Term)

namespace Term

structure Shape where
  least : Nat
  /-- All that it matches is of the least length. -/
  fixed : Bool
  /-- It cannot be matched as a plain pattern. -/
  looking : Bool

def Shape.place (looking : Bool) : Shape := ⟨0, true, looking⟩

def Shape.one : Shape := ⟨1, true, false⟩

def Shape.append (a b : Shape) : Shape :=
  ⟨a.least + b.least, a.fixed && b.fixed, a.looking || b.looking⟩

def Shape.orElse (a b : Shape) : Shape :=
  ⟨min a.least b.least, a.fixed && b.fixed && a.least == b.least, a.looking || b.looking⟩

mutual

/-- The shape of a term in a pattern that refers to the groups `referred`. -/
def shape (referred : List Nat) : Term → Shape
  | .empty => .place false
  | .char _ => .one
  | .any => .one
  | .place looking => .place looking
  | .characters _ => .one
  | .sequence terms => sequenceShape referred terms
  | .choice terms => choiceShape referred terms
  | .group number term =>
    let s := shape referred term
    { s with looking := s.looking || referred.contains number }
  | .look _ _ => .place true
  | .repeated term least most =>
    let s := shape referred term
    ⟨s.least * least, s.fixed && most == some least, s.looking⟩
  | .atomic term => { shape referred term with looking := true }
  | .again => ⟨0, false, true⟩
  | .mark => .place true
  | .conditional condition yes no =>
    let c := shape referred condition
    let y := shape referred yes
    let n := shape referred no
    ⟨c.least + min y.least n.least,
      c.fixed && y.fixed && n.fixed && c.least + y.least == n.least, true⟩

def sequenceShape (referred : List Nat) : List Term → Shape
  | [] => .place false
  | term :: rest => (shape referred term).append (sequenceShape referred rest)

def choiceShape (referred : List Nat) : List Term → Shape
  | [] => .place false
  | [term] => shape referred term
  | term :: rest => (shape referred term).orElse (choiceShape referred rest)

end

/-- The room in bytes that a plain part may take. What a part takes is an estimate, in which the room of
some classes is a guess, so a pattern close to the limit may be taken for one beyond it, or the other way
round. -/
def roomLimit : Nat := 0xA00000

mutual

/-- Whether a term matches nothing but the empty text. -/
def isVoid : Term → Bool
  | .empty | .place _ | .mark | .look _ _ => true
  | .sequence terms | .choice terms => areVoid terms
  | .group _ term | .repeated term _ _ | .atomic term => isVoid term
  | _ => false

def areVoid : List Term → Bool
  | [] => true
  | term :: rest => isVoid term && areVoid rest

end

mutual

/-- About the room that a term takes; repetitions are written out. -/
def room : Term → Nat
  | .char bytes => 32 * bytes
  | .any => 1000
  | .characters room => room
  | .sequence terms => roomOf 0 terms
  | .choice terms => 64 + roomOf 4 terms
  | .group _ term => 64 + room term
  | .repeated term least most =>
    let one := room term
    if isVoid term then one
    else
      match most with
      | none => max least 1 * one + 96
      | some most => most * one + (most - least) * 40
  | .atomic term => room term
  | _ => 32

def roomOf (each : Nat) : List Term → Nat
  | [] => 0
  | term :: rest => each + room term + roomOf each rest

end

mutual

/-- Whether all bounds of a plain part are in order. -/
def boundsHold : Term → Bool
  | .sequence terms | .choice terms => allBoundsHold terms
  | .group _ term | .atomic term | .look _ term => boundsHold term
  | .repeated term least most =>
    least < 0x100000000 && most.all (fun most => least ≤ most && most < 0x100000000) &&
      boundsHold term
  | _ => true

def allBoundsHold : List Term → Bool
  | [] => true
  | term :: rest => boundsHold term && allBoundsHold rest

end

def isPlain (terms : List Term) : Bool := allBoundsHold terms && roomOf 0 terms ≤ roomLimit

/-- How many terms from the front are plain and of fixed length. -/
def fixedFront (referred : List Nat) (terms : List Term) : Nat :=
  (terms.takeWhile fun term =>
    let s := shape referred term
    s.fixed && !s.looking).length

/-- How many terms at the back are plain, and of fixed length if all around is matched step by step. -/
def plainBack (referred : List Nat) (stepwise : Bool) (terms : List Term) : Nat :=
  (terms.reverse.takeWhile fun term =>
    let s := shape referred term
    (s.fixed || !stepwise) && !s.looking).length

mutual

/-- Whether a term can be matched. A plain part is matched in one go; a part that looks around or
back is matched step by step, and what is looked back for has to be of one length. `stepwise` says
that what is around it is matched step by step. -/
def isMatchable (referred : List Nat) (stepwise : Bool) : Term → Bool
  | .sequence terms =>
    if stepwise || (sequenceShape referred terms).looking then
      let front := fixedFront referred terms
      let back := plainBack referred stepwise (terms.drop front)
      isPlain (terms.take front) && isPlain (terms.drop (terms.length - back)) &&
        areMatchable referred true front (terms.length - back) terms
    else isPlain terms
  | .choice terms =>
    if stepwise || (choiceShape referred terms).looking then
      areMatchable referred stepwise 0 terms.length terms
    else isPlain [.choice terms]
  | .group number term =>
    if stepwise || (shape referred (.group number term)).looking then
      isMatchable referred stepwise term
    else isPlain [.group number term]
  | .repeated term least most =>
    let looking := (shape referred term).looking
    if stepwise || looking then
      let inner := if least = 0 && most = some 1 then stepwise else true
      isMatchable referred inner term
    else isPlain [.repeated term least most]
  | .look behind term =>
    if behind then
      let s := shape referred term
      match term with
      | .choice terms =>
        if s.fixed then
          if s.looking then areMatchable referred false 0 terms.length terms
          else isPlain [.choice terms]
        else areFixed referred terms && areMatchable referred false 0 terms.length terms
      | term => s.fixed && isMatchable referred false term
    else isMatchable referred false term
  | .atomic term => isMatchable referred false term
  | .conditional condition yes no =>
    isMatchable referred stepwise condition && isMatchable referred stepwise yes &&
      isMatchable referred stepwise no
  | term => isPlain [term]

/-- Whether the terms from place `first` up to place `last` can be matched. -/
def areMatchable (referred : List Nat) (stepwise : Bool) : Nat → Nat → List Term → Bool
  | _, _, [] => true
  | first + 1, last, _ :: rest => areMatchable referred stepwise first (last - 1) rest
  | 0, 0, _ => true
  | 0, last + 1, term :: rest =>
    isMatchable referred stepwise term && areMatchable referred stepwise 0 last rest

def areFixed (referred : List Nat) : List Term → Bool
  | [] => true
  | term :: rest => (shape referred term).fixed && areFixed referred rest

end

end Term
end SeriesClient.Schema.Pattern
