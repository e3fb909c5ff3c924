import SeriesClient.Json.Decode
import SeriesClient.Json.Normal

/-! Datapoints and their JSON forms. A datapoint is written as an object with the fields `t`, `d` and
`o`, the unset ones left out; it is read from such an object or from a list of the fields in that
order, either out of a document or straight from a text. -/

namespace SeriesClient

open Json (Mismatch Reader)

structure Datapoint where
  /-- Seconds since 1970; the server stamps a datapoint that comes without. -/
  time : Option Float
  data : Json.Normal
  /-- The device that wrote it, when the server tells. -/
  origin : Option String

namespace Datapoint

def unstamped (data : Json) : Datapoint := ⟨none, data.toNormal, none⟩

def stamped (time : Float) (data : Json) : Datapoint := ⟨some time, data.toNormal, none⟩

/-- Equality as the numbers define it: a datapoint whose time is not a number equals none. -/
def same (p q : Datapoint) : Bool :=
  p.time == q.time && p.data == q.data && p.origin == q.origin

/-- The object form, its fields in order. -/
def toJson (p : Datapoint) : Json :=
  .object ((p.time.toList.map fun t => ("t", Json.ofFloat t)) ++ ("d", p.data.json) ::
    (p.origin.toList.map fun o => ("o", Json.string o)))

def listToJson (points : List Datapoint) : Json := .array (points.map toJson)

/-- The fields read so far; an unset one that was read is `some none`. -/
structure Fields where
  time : Option (Option Float) := none
  data : Option Json := none
  origin : Option (Option String) := none

namespace Fields

def expected : String := "struct Datapoint"

def expectedList : String := "struct Datapoint with 3 elements"

def finish (f : Fields) : Except Mismatch Datapoint :=
  match f.data with
  | none => .error (.missing "d")
  | some d => .ok ⟨f.time.join, d.toNormal, f.origin.join⟩

end Fields

def timeOfJson : Json → Except Mismatch (Option Float)
  | .null => .ok none
  | .number n => .ok (some n.toFloat)
  | other => .error (.wrongType (.ofJson other) Reader.floatWanted)

def stringOfJson : Json → Except Mismatch String
  | .string s => .ok s
  | other => .error (.wrongType (.ofJson other) Reader.stringWanted)

def originOfJson : Json → Except Mismatch (Option String)
  | .null => .ok none
  | other => (stringOfJson other).map some

def Fields.takeMember (f : Fields) (name : String) (value : Json) : Except Mismatch Fields :=
  if name = "t" then
    if f.time.isSome then .error (.repeated "t")
    else (timeOfJson value).map fun t => { f with time := some t }
  else if name = "d" then
    if f.data.isSome then .error (.repeated "d") else .ok { f with data := some value }
  else if name = "o" then
    if f.origin.isSome then .error (.repeated "o")
    else (originOfJson value).map fun o => { f with origin := some o }
  else .ok f

def ofMembers (members : Json.Members) : Except Mismatch Datapoint := do
  let fields ← members.foldlM (fun (f : Fields) m => f.takeMember m.1 m.2) {}
  fields.finish

def ofItems : List Json → Except Mismatch Datapoint
  | [] => .error (.tooFew 1 Fields.expectedList)
  | [t] => do
    let _ ← timeOfJson t
    .error (.tooFew 1 Fields.expectedList)
  | [t, d] => do
    let t ← timeOfJson t
    pure ⟨t, d.toNormal, none⟩
  | t :: d :: o :: rest => do
    let t ← timeOfJson t
    let o ← originOfJson o
    if rest.isEmpty then pure ⟨t, d.toNormal, o⟩ else .error (.tooMany (rest.length + 3))

def ofJson : Json → Except Mismatch Datapoint
  | .object members => ofMembers members
  | .array items => ofItems items
  | other => .error (.wrongType (.ofJson other) Fields.expected)

/-- One bad element fails the list. -/
def listOfJson : Json → Except Mismatch (List Datapoint)
  | .array items => items.mapM ofJson
  | other => .error (.wrongType (.ofJson other) Reader.sequenceWanted)

/-- The datapoints of an answer, of which there are none in `null`. -/
def listOfAnswer : Json → Except Mismatch (List Datapoint)
  | .null => .ok []
  | answer => listOfJson answer

def readMember (depth : Nat) (name : String) (f : Fields) : Reader Fields := do
  if name = "t" then
    if f.time.isSome then Reader.mismatch (.repeated "t")
    else
      Reader.colon
      let t ← Reader.optional Reader.readFloat
      pure { f with time := some t }
  else if name = "d" then
    if f.data.isSome then Reader.mismatch (.repeated "d")
    else
      Reader.colon
      let d ← Reader.readValue depth
      pure { f with data := some d }
  else if name = "o" then
    if f.origin.isSome then Reader.mismatch (.repeated "o")
    else
      Reader.colon
      let o ← Reader.optional Reader.readText
      pure { f with origin := some o }
  else
    Reader.colon
    Reader.skipValue
    pure f

def readObject (depth : Nat) : Reader Datapoint := do
  let fields ← Reader.members (readMember depth) {}
  Reader.ofDocument fields.finish

def readItems (depth : Nat) : Reader Datapoint := do
  let t ← Reader.nextField true (Reader.optional Reader.readFloat)
  let d ← Reader.nextField t.isNone (Reader.readValue depth)
  match d with
  | none => Reader.mismatch (.tooFew 1 Fields.expectedList)
  | some d =>
    let o ← Reader.nextField false (Reader.optional Reader.readText)
    pure ⟨t.join, d.toNormal, o.join⟩

/-- A datapoint inside which `depth` brackets may open, its own among them. -/
def read (depth : Nat) : Reader Datapoint := Reader.record Fields.expected readItems readObject depth

def readList (depth : Nat) : Reader (List Datapoint) := Reader.listOf read depth

def decode (text : List Glyph) : Except Json.Failure Datapoint :=
  Reader.run (read Reader.depthLimit) text

def decodeList (text : List Glyph) : Except Json.Failure (List Datapoint) :=
  Reader.run (readList Reader.depthLimit) text

end Datapoint
end SeriesClient
