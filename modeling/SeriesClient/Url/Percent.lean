/-! Percent encoding: a character that may not stand in a part of a URL is written as the bytes of its
UTF-8 form, each as a percent sign and two hexadecimal digits. -/

namespace SeriesClient.Url

def hexUpper (n : Nat) : Char := (Nat.digitChar (n % 16)).toUpper

def percentByte (b : UInt8) : List Char := ['%', hexUpper (b.toNat / 16), hexUpper b.toNat]

def percentChar (inSet : Char → Bool) (c : Char) : List Char :=
  if inSet c then (String.utf8EncodeChar c).flatMap percentByte else [c]

def percentEncode (inSet : Char → Bool) (chars : List Char) : List Char :=
  chars.flatMap (percentChar inSet)

def hexDigit? (b : UInt8) : Option Nat :=
  let n := b.toNat
  if 48 ≤ n && n ≤ 57 then some (n - 48)
  else if 97 ≤ n && n ≤ 102 then some (n - 87)
  else if 65 ≤ n && n ≤ 70 then some (n - 55)
  else none

def escapedByte? (percent high low : UInt8) : Option UInt8 :=
  if percent = 0x25 then
    match hexDigit? high, hexDigit? low with
    | some h, some l => some (UInt8.ofNat (h * 16 + l))
    | _, _ => none
  else none

/-- A percent sign without two hexadecimal digits after it stands for itself. -/
def percentDecode : List UInt8 → List UInt8
  | a :: b :: c :: rest =>
    match escapedByte? a b c with
    | some byte => byte :: percentDecode rest
    | none => a :: percentDecode (b :: c :: rest)
  | bytes => bytes

def utf8Bytes (chars : List Char) : List UInt8 := chars.flatMap String.utf8EncodeChar

/-- Control characters and all that is not ASCII. -/
def isControl (c : Char) : Bool := c.toNat < 0x20 || 0x7F ≤ c.toNat

def inFragmentSet (c : Char) : Bool :=
  isControl c || c = ' ' || c = '"' || c = '<' || c = '>' || c = '\x60'

def inQuerySet (c : Char) : Bool :=
  isControl c || c = ' ' || c = '"' || c = '#' || c = '<' || c = '>'

def inSpecialQuerySet (c : Char) : Bool := inQuerySet c || c = '\''

def inPathSet (c : Char) : Bool :=
  inFragmentSet c || c = '#' || c = '?' || c = '\x7b' || c = '\x7d'

def inUserinfoSet (c : Char) : Bool :=
  inPathSet c || c = '/' || c = ':' || c = ';' || c = '=' || c = '@' || c = '[' || c = '\\' ||
    c = ']' || c = '^' || c = '|'

end SeriesClient.Url
