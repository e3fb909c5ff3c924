import SeriesClient.Json.Basic

/-! The compact text of a document. -/

namespace SeriesClient.Json

/-- Numbers have the fewest digits that read back and always a fraction or an exponent; they are
written positionally from `0.00001` up to but not including `1e+16`. -/
def realLayout : Decimal.Layout where
  tie := .toEven
  positional lead := -5 ≤ lead && lead < 16
  pointZero := true

def hexDigit (n : Nat) : Char := Nat.digitChar (n % 16)

/-- Only quotes, backslashes and control characters are escaped. -/
def escapeChar (c : Char) : List Char :=
  if c = '"' then ['\\', '"']
  else if c = '\\' then ['\\', '\\']
  else if c = '\x08' then ['\\', 'b']
  else if c = '\x0c' then ['\\', 'f']
  else if c = '\n' then ['\\', 'n']
  else if c = '\r' then ['\\', 'r']
  else if c = '\t' then ['\\', 't']
  else if c.toNat < 0x20 then ['\\', 'u', '0', '0', hexDigit (c.toNat / 16), hexDigit c.toNat]
  else [c]

def stringChars (s : String) : List Char := '"' :: (s.toList.flatMap escapeChar ++ ['"'])

def integerChars (n : Int) : List Char :=
  if n < 0 then '-' :: Decimal.digitChars n.natAbs else Decimal.digitChars n.natAbs

def Number.chars : Number → List Char
  | integer n _ => integerChars n
  | real x _ => realLayout.text x

mutual

def chars : Json → List Char
  | null => ['n', 'u', 'l', 'l']
  | bool true => ['t', 'r', 'u', 'e']
  | bool false => ['f', 'a', 'l', 's', 'e']
  | number n => n.chars
  | string s => stringChars s
  | array items => '[' :: (itemChars items ++ [']'])
  | object members => '\x7b' :: (memberChars members ++ ['\x7d'])

def itemChars : List Json → List Char
  | [] => []
  | [item] => item.chars
  | item :: rest => item.chars ++ ',' :: itemChars rest

def memberChars : Members → List Char
  | [] => []
  | [(name, value)] => stringChars name ++ ':' :: value.chars
  | (name, value) :: rest => stringChars name ++ ':' :: (value.chars ++ ',' :: memberChars rest)

end

def text (document : Json) : String := String.ofList document.chars

end SeriesClient.Json
