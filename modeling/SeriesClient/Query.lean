import SeriesClient.Error

/-! Range queries. A stream is read by index or by time, never both; a query becomes the parameters of
a request, of which there is always at least one for the range. -/

namespace SeriesClient

abbrev Parameters := List (String × String)

namespace Query

/-- Where a range of indices ends. -/
inductive Bound where
  /-- Before this index; the server reads 0 as the end of the stream. -/
  | before (index : Int64)
  /-- With the newest datapoint. -/
  | newest
  deriving DecidableEq

inductive Range where
  | fromStart
  | byIndex (first : Int64) (bound : Bound)
  | byTime (start stop : Option Float) (limit : Option UInt64)
  deriving DecidableEq

end Query

structure Query where
  range : Query.Range
  /-- An expression that the server applies to each datapoint before it answers. -/
  transform : Option String
  deriving DecidableEq

namespace Query

def all : Query := ⟨.fromStart, none⟩

instance : Inhabited Query := ⟨all⟩

def byIndex (first last : Int64) : Query := ⟨.byIndex first (.before last), none⟩

def fromIndex (first : Int64) : Query := ⟨.byIndex first .newest, none⟩

def byTime (start stop : Option Float) (limit : Option UInt64) : Query :=
  ⟨.byTime start stop limit, none⟩

def withTransform (q : Query) (transform : String) : Query := { q with transform := some transform }

/-- Times are written with the fewest digits that read back, never with an exponent. -/
def timeLayout : Decimal.Layout where
  tie := .up
  positional _ := true
  pointZero := false

def timeText (t : Float) : String := String.ofList (timeLayout.text t)

def indexText (i : Int64) : String := String.ofList (Json.integerChars i.toInt)

def limitText (n : UInt64) : String := String.ofList (Decimal.digitChars n.toNat)

namespace Range

def parameters : Range → Parameters
  | fromStart => []
  | byIndex first (.before last) => [("i1", indexText first), ("i2", indexText last)]
  | byIndex first .newest => [("i1", indexText first)]
  | byTime start stop limit =>
    (start.map fun t => ("t1", timeText t)).toList ++
      (stop.map fun t => ("t2", timeText t)).toList ++
      (limit.map fun n => ("limit", limitText n)).toList

end Range

/-- The parameters that stand for the range; the server refuses a request without any. -/
def rangeParameters (range : Range) : Parameters :=
  match range.parameters with
  | [] => [("i1", "0")]
  | ps => ps

def parameters (q : Query) : Parameters :=
  rangeParameters q.range ++ (q.transform.map fun t => ("transform", t)).toList

/-- The parts that have been set, each the last time it was. -/
structure Builder where
  t1 : Option Float := none
  t2 : Option Float := none
  limit : Option UInt64 := none
  i1 : Option Int64 := none
  i2 : Option Int64 := none
  transform : Option String := none

namespace Builder

inductive Setting where
  | t1 (time : Float)
  | t2 (time : Float)
  | limit (count : UInt64)
  | i1 (index : Int64)
  | i2 (index : Int64)
  | transform (expression : String)

def set (b : Builder) : Setting → Builder
  | .t1 t => { b with t1 := some t }
  | .t2 t => { b with t2 := some t }
  | .limit n => { b with limit := some n }
  | .i1 i => { b with i1 := some i }
  | .i2 i => { b with i2 := some i }
  | .transform e => { b with transform := some e }

def setAll (b : Builder) (settings : List Setting) : Builder := settings.foldl set b

def isByIndex (b : Builder) : Bool := b.i1.isSome || b.i2.isSome

def isByTime (b : Builder) : Bool := b.t1.isSome || b.t2.isSome || b.limit.isSome

def build (b : Builder) : Except StreamError Query :=
  if b.isByIndex then
    if b.isByTime then .error .addressingConflict
    else
      let bound := match b.i2 with
        | some i => Bound.before i
        | none => .newest
      .ok ⟨.byIndex (b.i1.getD 0) bound, b.transform⟩
  else if b.isByTime then .ok ⟨.byTime b.t1 b.t2 b.limit, b.transform⟩
  else .ok ⟨.fromStart, b.transform⟩

end Builder

/-- The conversion of the parts into a query. -/
def ofBuilder (b : Builder) : Except StreamError Query := b.build

end Query
end SeriesClient
