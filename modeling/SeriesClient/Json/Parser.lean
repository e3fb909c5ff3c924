import SeriesClient.Json.Numeral

/-! Reading whole documents, and passing over values that nobody asked for. -/

namespace SeriesClient.Json
namespace Reader

variable {α : Type}

/-- The deepest nesting of lists and objects that is read. -/
def depthLimit : Nat := 127

def nested (reader : Nat → Reader α) : Nat → Reader α
  | 0 => failAhead .tooDeep
  | depth + 1 => do
    advance
    reader depth

/-- A value, its first item being in place. `list` and `object` start at the bracket. -/
def valueWith (list object : Reader Json) : Reader Json := do
  match ← peekToken with
  | none => failAhead .endInValue
  | some (.stray _) => failAhead .expectedValue
  | some (.char c) =>
    if c = 'n' then do advance; expectRest ['u', 'l', 'l']; pure .null
    else if c = 't' then do advance; expectRest ['r', 'u', 'e']; pure (.bool true)
    else if c = 'f' then do advance; expectRest ['a', 'l', 's', 'e']; pure (.bool false)
    else if c = '-' || ('0' ≤ c && c ≤ '9') then do let n ← readNumber; pure (.number n)
    else if c = '"' then do advance; let s ← readString; pure (.string s)
    else if c = '[' then list
    else if c = '\x7b' then object
    else failAhead .expectedValue

def readValue : Nat → Reader Json
  | 0 => valueWith (failAhead .tooDeep) (failAhead .tooDeep)
  | depth + 1 =>
    valueWith
      (do
        advance
        let xs ← items (readValue depth)
        endList
        pure (.array xs))
      (do
        advance
        let ms ← members
          (fun name ms => do
            colon
            let v ← readValue depth
            pure ((name, v) :: ms)) []
        endObject
        pure (.object ms.reverse))

inductive Bracket where
  | list
  | object
  deriving DecidableEq

/-- The name of the next member of a skipped object, and its colon. -/
def skipName : Reader Unit := do
  match ← peekToken with
  | none => failAhead .endInObject
  | some g =>
    if g = .char '"' then
      advance
      skipString
      match ← peekToken with
      | none => failAhead .endInObject
      | some g => if g = .char ':' then advance else failAhead .expectedColon
    else failAhead .keyNotString

/-- What comes after a skipped value, or after an opening bracket when `opened`: closing brackets, up
to the next value. Answers the brackets still open, or `none` once the outermost value has ended. -/
def skipToValue : Nat → List Bracket → Bool → Reader (Option (List Bracket))
  | 0, _, _ => failHere .endInValue
  | _, [], _ => pure none
  | fuel + 1, b :: bs, opened => do
    let resume : Reader (Option (List Bracket)) := do
      if b = .object then skipName
      pure (some (b :: bs))
    match ← peekToken with
    | none => failAhead (match b with | .list => .endInList | .object => .endInObject)
    | some g =>
      if g = .char ',' && !opened then do advance; resume
      else if g = .char (match b with | .list => ']' | .object => '\x7d') then do
        advance
        skipToValue fuel bs false
      else if opened then resume
      else failAhead (match b with | .list => .expectedListEnd | .object => .expectedObjectEnd)

def skipValues : Nat → List Bracket → Reader Unit
  | 0, _ => failHere .endInValue
  | fuel + 1, outer => do
    let after (brackets : List Bracket) (opened : Bool) : Reader Unit := do
      match ← skipToValue (fuel + 1) brackets opened with
      | none => pure ()
      | some brackets => skipValues fuel brackets
    match ← peekToken with
    | none => failAhead .endInValue
    | some (.stray _) => failAhead .expectedValue
    | some (.char c) =>
      if c = 'n' then do advance; expectRest ['u', 'l', 'l']; after outer false
      else if c = 't' then do advance; expectRest ['r', 'u', 'e']; after outer false
      else if c = 'f' then do advance; expectRest ['a', 'l', 's', 'e']; after outer false
      else if c = '-' || ('0' ≤ c && c ≤ '9') then do skipNumber; after outer false
      else if c = '"' then do advance; skipString; after outer false
      else if c = '[' then do advance; after (.list :: outer) true
      else if c = '\x7b' then do advance; after (.object :: outer) true
      else failAhead .expectedValue

/-- Passes over a value, however deep. Every step takes at least one item of the text or closes a
bracket that took one. -/
def skipValue : Reader Unit := fun text => skipValues (2 * text.length + 2) [] text

end Reader

def parse (text : List Glyph) : Except Failure Json :=
  Reader.run (Reader.readValue Reader.depthLimit) text

/-- The document a text is, its members in order of their names. -/
def parseNormal (text : List Glyph) : Except Failure Json := (parse text).map normalize

end SeriesClient.Json
