import SeriesClient.Json.Printer
import SeriesClient.Text.Utf8
import SeriesClient.Text.Quoted

/-! Why a text is not a document, or a document not the record it is read as. -/

namespace SeriesClient.Json

/-- What stands where a record wants something else. -/
inductive Found where
  | null
  | bool (value : Bool)
  | number (value : Number)
  | string (value : String)
  | sequence
  | map
  deriving DecidableEq

def Found.ofJson : Json → Found
  | .null => null
  | .bool b => bool b
  | .number n => number n
  | .string s => string s
  | .array _ => sequence
  | .object _ => map

def Found.message : Found → String
  | null => "null"
  | bool b => if b then "boolean `true`" else "boolean `false`"
  | number (.integer n h) => "integer `" ++ String.ofList (Number.integer n h).chars ++ "`"
  | number (.real x h) => "floating point `" ++ String.ofList (Number.real x h).chars ++ "`"
  | string s => "string " ++ Text.quoted s
  | sequence => "sequence"
  | map => "map"

/-- How a well-formed document fails to be a record. -/
inductive Mismatch where
  | wrongType (found : Found) (expected : String)
  | missing (field : String)
  | repeated (field : String)
  | tooFew (count : Nat) (expected : String)
  | tooMany (count : Nat)
  | unknownVariant (name : String)
  deriving DecidableEq

def countText (n : Nat) : String := String.ofList (Decimal.digitChars n)

def Mismatch.message : Mismatch → String
  | wrongType found expected => "invalid type: " ++ found.message ++ ", expected " ++ expected
  | missing field => "missing field `" ++ field ++ "`"
  | repeated field => "duplicate field `" ++ field ++ "`"
  | tooFew count expected => "invalid length " ++ countText count ++ ", expected " ++ expected
  | tooMany count => "invalid length " ++ countText count ++ ", expected fewer elements in array"
  | unknownVariant name => "unknown variant `" ++ name ++ "`"

inductive Fault where
  | endInList | endInObject | endInString | endInValue
  | expectedColon | expectedListEnd | expectedObjectEnd | expectedIdent | expectedValue
  | invalidEscape | invalidNumber | numberOutOfRange | invalidCodePoint | controlCharacter
  | keyNotString | loneSurrogate | openSurrogate | trailingComma | trailingCharacters | tooDeep
  | mismatch (cause : Mismatch)
  deriving DecidableEq

inductive Fault.Category where
  | truncated | malformed | mismatched
  deriving DecidableEq, Repr

def Fault.category : Fault → Fault.Category
  | endInList | endInObject | endInString | endInValue => .truncated
  | mismatch _ => .mismatched
  | _ => .malformed

def Fault.message : Fault → String
  | endInList => "EOF while parsing a list"
  | endInObject => "EOF while parsing an object"
  | endInString => "EOF while parsing a string"
  | endInValue => "EOF while parsing a value"
  | expectedColon => "expected `:`"
  | expectedListEnd => "expected `,` or `]`"
  | expectedObjectEnd => "expected `,` or `\x7d`"
  | expectedIdent => "expected ident"
  | expectedValue => "expected value"
  | invalidEscape => "invalid escape"
  | invalidNumber => "invalid number"
  | numberOutOfRange => "number out of range"
  | invalidCodePoint => "invalid unicode code point"
  | controlCharacter => "control character (\\u0000-\\u001F) found while parsing a string"
  | keyNotString => "key must be a string"
  | loneSurrogate => "lone leading surrogate in hex escape"
  | openSurrogate => "unexpected end of hex escape"
  | trailingComma => "trailing comma"
  | trailingCharacters => "trailing characters"
  | tooDeep => "recursion limit exceeded"
  | mismatch cause => cause.message

/-- A fault and how many bytes of the text stood after the place it is reported at. -/
structure Failure where
  fault : Fault
  unread : Nat
  deriving DecidableEq

/-- The line, from 1 on, and the bytes of that line that come before the last `unread` bytes. -/
def position (text : List Glyph) (unread : Nat) : Nat × Nat :=
  let rec walk (line column left : Nat) : List Glyph → Nat × Nat
    | [] => (line, column)
    | g :: rest =>
      if left = 0 then (line, column)
      else if g.width ≤ left then
        if g = .char '\n' then walk (line + 1) 0 (left - g.width) rest
        else walk line (column + g.width) (left - g.width) rest
      else (line, column + left)
  walk 1 0 (Glyph.size text - unread) text

def Failure.message (text : List Glyph) (failure : Failure) : String :=
  let (line, column) := position text failure.unread
  failure.fault.message ++ " at line " ++ countText line ++ " column " ++ countText column

end SeriesClient.Json
