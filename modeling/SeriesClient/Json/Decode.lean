import SeriesClient.Json.Parser

/-! Reading the parts of a record straight from a text: numbers, strings, optional parts, and lists.
A part of the wrong kind is a mismatch, provided that what stands there is well formed as far as it
tells its kind. -/

namespace SeriesClient.Json.Reader

variable {α : Type}

def mismatch (cause : Mismatch) : Reader α := failHere (.mismatch cause)

/-- Goes on with what was made of a document read before. -/
def ofDocument : Except Mismatch α → Reader α
  | .ok x => pure x
  | .error cause => mismatch cause

/-- Names what stands here in place of what was expected. -/
def wrongType (expected : String) : Reader α := do
  let found (f : Found) : Reader α := mismatch (.wrongType f expected)
  match ← peek with
  | none => failAhead .endInValue
  | some (.stray _) => failAhead .expectedValue
  | some (.char c) =>
    if c = 'n' then do advance; expectRest ['u', 'l', 'l']; found .null
    else if c = 't' then do advance; expectRest ['r', 'u', 'e']; found (.bool true)
    else if c = 'f' then do advance; expectRest ['a', 'l', 's', 'e']; found (.bool false)
    else if c = '-' || ('0' ≤ c && c ≤ '9') then do let n ← readNumber; found (.number n)
    else if c = '"' then do advance; let s ← readString; found (.string s)
    else if c = '[' then found .sequence
    else if c = '\x7b' then found .map
    else failAhead .expectedValue

def floatWanted : String := "f64"

def stringWanted : String := "a string"

def sequenceWanted : String := "a sequence"

def readFloat : Reader Float := do
  match ← peekToken with
  | none => failAhead .endInValue
  | some g =>
    if g = .char '-' || (Numeral.digit? g).isSome then
      let n ← readNumber
      pure n.toFloat
    else wrongType floatWanted

def readText : Reader String := do
  match ← peekToken with
  | none => failAhead .endInValue
  | some g =>
    if g = .char '"' then do advance; readString
    else wrongType stringWanted

/-- A part that may be `null`. -/
def optional (reader : Reader α) : Reader (Option α) := do
  if (← peekToken) = some (.char 'n') then
    advance
    expectRest ['u', 'l', 'l']
    pure none
  else
    let x ← reader
    pure (some x)

/-- A list of records, `item` being given how many brackets may still open. -/
def listOf (item : Nat → Reader α) (depth : Nat) : Reader (List α) := do
  match ← peekToken with
  | none => failAhead .endInValue
  | some g =>
    if g = .char '[' then
      let xs ← nested (fun depth => items (item depth)) depth
      endList
      pure xs
    else wrongType sequenceWanted

/-- A record: its fields in order in a list, or by name in an object. `list` and `object` read what
stands between the brackets. -/
def record (expected : String) (list object : Nat → Reader α) (depth : Nat) : Reader α := do
  match ← peekToken with
  | none => failAhead .endInValue
  | some g =>
    if g = .char '[' then
      let x ← nested list depth
      endList
      pure x
    else if g = .char '\x7b' then
      let x ← nested object depth
      endObject
      pure x
    else wrongType expected

/-- The next field of a record that is a list, if the list goes on. -/
def nextField (first : Bool) (reader : Reader α) : Reader (Option α) := do
  if ← moreItems first then
    let x ← reader
    pure (some x)
  else pure none

end SeriesClient.Json.Reader
