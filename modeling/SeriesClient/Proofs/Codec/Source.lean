import SeriesClient.Json.Numeral
import SeriesClient.Json.Printer

/-! The texts that are JSON. A document can be written in many ways: there may be blanks between any two
parts of it, a character of a string may stand for itself or be escaped, and a number may have digits
that change nothing. A `Source` is a document as it is written, with all of this in it; what it cannot
hold is not JSON.

A string may also have escapes that stand for no character, surrogates without their other half. They
are well formed, so a source may have them, but such a source stands for no document. -/

namespace SeriesClient.Json

inductive Blank where
  | space | newline | tab | carriage
  deriving DecidableEq

def Blank.char : Blank → Char
  | space => ' '
  | newline => '\n'
  | tab => '\t'
  | carriage => '\r'

def blankChars (blanks : List Blank) : List Char := blanks.map Blank.char

/-- Something with the blanks around it. -/
structure Padded (α : Type) where
  before : List Blank
  inside : α
  after : List Blank

namespace Padded

variable {α β : Type}

def bare (inside : α) : Padded α := ⟨[], inside, []⟩

def map (f : α → β) (p : Padded α) : Padded β := ⟨p.before, f p.inside, p.after⟩

def chars (p : Padded (List Char)) : List Char :=
  blankChars p.before ++ (p.inside ++ blankChars p.after)

end Padded

structure Hex where
  digit : Fin 16
  upper : Bool

def Hex.char (h : Hex) : Char := if h.upper then (hexDigit h.digit).toUpper else hexDigit h.digit

inductive Short where
  | quote | backslash | slash | backspace | formFeed | newline | carriage | tab

namespace Short

def letter : Short → Char
  | quote => '"'
  | backslash => '\\'
  | slash => '/'
  | backspace => 'b'
  | formFeed => 'f'
  | newline => 'n'
  | carriage => 'r'
  | tab => 't'

def char : Short → Char
  | quote => '"'
  | backslash => '\\'
  | slash => '/'
  | backspace => '\x08'
  | formFeed => '\x0c'
  | newline => '\n'
  | carriage => '\r'
  | tab => '\t'

end Short

/-- An escape of four digits, one unit of UTF-16. -/
structure Escape where
  a : Hex
  b : Hex
  c : Hex
  d : Hex

namespace Escape

def value (e : Escape) : Nat :=
  ((e.a.digit * 16 + e.b.digit) * 16 + e.c.digit) * 16 + e.d.digit

def chars (e : Escape) : List Char := ['\\', 'u', e.a.char, e.b.char, e.c.char, e.d.char]

def isSurrogate (e : Escape) : Bool := Reader.isHigh e.value || Reader.isLow e.value

end Escape

inductive Piece where
  | plain (c : Char) (h : c ≠ '"' ∧ c ≠ '\\' ∧ 0x20 ≤ c.toNat)
  | short (s : Short)
  | unit (e : Escape)
  | pair (high low : Escape) (hhigh : Reader.isHigh high.value = true)
    (hlow : Reader.isLow low.value = true)

namespace Piece

def chars : Piece → List Char
  | plain c _ => [c]
  | short s => ['\\', s.letter]
  | unit e => e.chars
  | pair high low _ _ => high.chars ++ low.chars

/-- The character that is meant. A surrogate on its own is none, unless `lone` is to stand for it. -/
def char? (lone : Option Char) : Piece → Option Char
  | plain c _ => some c
  | short s => some s.char
  | unit e => if e.isSurrogate then lone else some (Char.ofNat e.value)
  | pair high low _ _ =>
    some (Char.ofNat ((high.value - 0xD800) * 0x400 + (low.value - 0xDC00) + 0x10000))

end Piece

abbrev Spelling := List Piece

namespace Spelling

def rest (s : Spelling) : List Char := s.flatMap Piece.chars ++ ['"']

def chars (s : Spelling) : List Char := '"' :: s.rest

def text? (lone : Option Char) (s : Spelling) : Option String :=
  (s.mapM (Piece.char? lone)).map String.ofList

end Spelling

abbrev Digits := List (Fin 10)

def digitChars (ds : Digits) : List Char := ds.map fun d : Fin 10 => Nat.digitChar d.val

def digitNumbers (ds : Digits) : List Nat := ds.map Fin.val

/-- A whole part: a zero, or digits the first of which is one more than `lead`. -/
inductive Whole where
  | zero
  | digits (lead : Fin 9) (rest : Digits)

/-- An exponent with its letter, its sign, true for plus, and its digits. -/
structure Exponent where
  upper : Bool
  sign : Option Bool
  first : Fin 10
  rest : Digits

/-- A number as it is written. -/
structure Figure where
  negative : Bool
  whole : Whole
  fraction : Option (Fin 10 × Digits)
  exponent : Option Exponent

namespace Figure

def wholeChars : Whole → List Char
  | .zero => ['0']
  | .digits lead rest => Nat.digitChar (lead + 1) :: digitChars rest

def wholeDigits : Whole → List Nat
  | .zero => [0]
  | .digits lead rest => (lead + 1 : Nat) :: digitNumbers rest

def fractionChars : Option (Fin 10 × Digits) → List Char
  | none => []
  | some (first, rest) => '.' :: digitChars (first :: rest)

def signChars : Option Bool → List Char
  | none => []
  | some true => ['+']
  | some false => ['-']

def exponentChars : Option Exponent → List Char
  | none => []
  | some e => (if e.upper then 'E' else 'e') :: (signChars e.sign ++ digitChars (e.first :: e.rest))

def chars (f : Figure) : List Char :=
  (if f.negative then ['-'] else []) ++
    (wholeChars f.whole ++ (fractionChars f.fraction ++ exponentChars f.exponent))

def numeral (f : Figure) : Numeral where
  negative := f.negative
  whole := wholeDigits f.whole
  fraction := f.fraction.map fun ds => digitNumbers (ds.1 :: ds.2)
  exponent := f.exponent.map fun e => (e.sign != some false, digitNumbers (e.first :: e.rest))

/-- The number that is meant, unless it is out of range. -/
def number? (f : Figure) : Option Number := f.numeral.value.toOption

end Figure

/-- A document as it is written. The blanks after an opening bracket stand before the first element,
too; an empty list has no others. -/
inductive Source where
  | null
  | bool (value : Bool)
  | number (figure : Figure)
  | string (spelling : Spelling)
  | array (gap : List Blank) (items : List (Padded Source))
  | object (gap : List Blank) (members : List (Padded Spelling × Padded Source))

namespace Source

def commas (texts : List (List Char)) : List Char := [','].intercalate texts

mutual

def chars : Source → List Char
  | null => ['n', 'u', 'l', 'l']
  | bool true => ['t', 'r', 'u', 'e']
  | bool false => ['f', 'a', 'l', 's', 'e']
  | number f => f.chars
  | string s => s.chars
  | array gap items => '[' :: (blankChars gap ++ (commas (itemTexts items) ++ [']']))
  | object gap members =>
    '\x7b' :: (blankChars gap ++ (commas (memberTexts members) ++ ['\x7d']))

def itemTexts : List (Padded Source) → List (List Char)
  | [] => []
  | ⟨before, inside, after⟩ :: items => Padded.chars ⟨before, inside.chars, after⟩ :: itemTexts items

def memberTexts : List (Padded Spelling × Padded Source) → List (List Char)
  | [] => []
  | (name, ⟨before, inside, after⟩) :: members =>
    ((name.map Spelling.chars).chars ++ ':' :: Padded.chars ⟨before, inside.chars, after⟩) ::
      memberTexts members

end

theorem itemTexts_eq (items : List (Padded Source)) :
    itemTexts items = items.map fun item => (item.map chars).chars := by
  induction items with
  | nil => rfl
  | cons item items ih => exact congrArg ((item.map chars).chars :: ·) ih

theorem memberTexts_eq (members : List (Padded Spelling × Padded Source)) :
    memberTexts members =
      members.map fun m => (m.1.map Spelling.chars).chars ++ ':' :: (m.2.map chars).chars := by
  induction members with
  | nil => rfl
  | cons m members ih =>
    exact congrArg (((m.1.map Spelling.chars).chars ++ ':' :: (m.2.map chars).chars) :: ·) ih

section

variable (lone : Option Char)

mutual

/-- The document that is meant, unless a number is out of range or a surrogate stands alone. -/
def value? : Source → Option Json
  | null => some .null
  | bool b => some (.bool b)
  | number f => f.number?.map .number
  | string s => (s.text? lone).map .string
  | array _ items => (itemValues? items).map .array
  | object _ members => (memberValues? members).map .object

def itemValues? : List (Padded Source) → Option (List Json)
  | [] => some []
  | ⟨_, inside, _⟩ :: items => do
    let v ← inside.value?
    let vs ← itemValues? items
    some (v :: vs)

def memberValues? : List (Padded Spelling × Padded Source) → Option Members
  | [] => some []
  | (⟨_, name, _⟩, ⟨_, inside, _⟩) :: members => do
    let n ← name.text? lone
    let v ← inside.value?
    let ms ← memberValues? members
    some ((n, v) :: ms)

end

end

end Source

end SeriesClient.Json
