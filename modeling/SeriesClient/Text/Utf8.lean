/-! Bytes read as UTF-8 text. `Glyph.ofBytes` splits a run of bytes into characters and maximal
ill-formed stretches; `lossy` shows each stretch as U+FFFD, `strict?` refuses a text that has one. -/

namespace SeriesClient

/-- An item of a byte text: a character, or a maximal ill-formed stretch and its length in bytes. -/
inductive Glyph where
  | char (c : Char)
  | stray (width : Nat)
  deriving DecidableEq, Repr, Inhabited

namespace Glyph

def width : Glyph → Nat
  | char c => c.utf8Size
  | stray n => n

/-- A sequence under way: the value so far, how many bytes are still due, the bounds of the next
one, and how many bytes went in. -/
structure Pending where
  value : Nat
  due : Nat
  low : Nat
  high : Nat
  width : Nat

inductive Lead where
  | whole (c : Char)
  | opens (p : Pending)
  | bad

/-- The bounds on the second byte exclude overlong forms, surrogates and values past U+10FFFF. -/
def Lead.ofByte (b : Nat) : Lead :=
  if b < 0x80 then .whole (Char.ofNat b)
  else if b < 0xC2 then .bad
  else if b < 0xE0 then .opens ⟨b % 0x20, 1, 0x80, 0xBF, 1⟩
  else if b = 0xE0 then .opens ⟨0, 2, 0xA0, 0xBF, 1⟩
  else if b = 0xED then .opens ⟨0xD, 2, 0x80, 0x9F, 1⟩
  else if b < 0xF0 then .opens ⟨b % 0x10, 2, 0x80, 0xBF, 1⟩
  else if b = 0xF0 then .opens ⟨0, 3, 0x90, 0xBF, 1⟩
  else if b < 0xF4 then .opens ⟨b % 8, 3, 0x80, 0xBF, 1⟩
  else if b = 0xF4 then .opens ⟨4, 3, 0x80, 0x8F, 1⟩
  else .bad

def scan : Option Pending → List UInt8 → List Glyph
  | none, [] => []
  | some p, [] => [stray p.width]
  | none, b :: bytes =>
    match Lead.ofByte b.toNat with
    | .whole c => char c :: scan none bytes
    | .opens p => scan (some p) bytes
    | .bad => stray 1 :: scan none bytes
  | some p, b :: bytes =>
    if p.low ≤ b.toNat ∧ b.toNat ≤ p.high then
      let value := p.value * 0x40 + b.toNat % 0x40
      if p.due ≤ 1 then char (Char.ofNat value) :: scan none bytes
      else scan (some ⟨value, p.due - 1, 0x80, 0xBF, p.width + 1⟩) bytes
    else
      -- The byte that breaks a sequence starts afresh.
      stray p.width :: match Lead.ofByte b.toNat with
        | .whole c => char c :: scan none bytes
        | .opens q => scan (some q) bytes
        | .bad => stray 1 :: scan none bytes

def ofBytes (bytes : List UInt8) : List Glyph := scan none bytes

def ofChars (chars : List Char) : List Glyph := chars.map char

def ofString (text : String) : List Glyph := ofChars text.toList

def size : List Glyph → Nat
  | [] => 0
  | g :: rest => g.width + size rest

def toChar : Glyph → Char
  | char c => c
  | stray _ => '\uFFFD'

def char? : Glyph → Option Char
  | char c => some c
  | stray _ => none

def lossy (text : List Glyph) : String := String.ofList (text.map toChar)

def strict? (text : List Glyph) : Option String := (text.mapM char?).map String.ofList

end Glyph
end SeriesClient
