import SeriesClient.Url.Percent
import SeriesClient.Text.Utf8

/-! Form encoding: pairs of texts written as one text, joined by equals signs and ampersands. -/

namespace SeriesClient.Url.Form

/-- The bytes that stand for themselves. -/
def isPlain (b : UInt8) : Bool :=
  let n := b.toNat
  (48 ≤ n && n ≤ 57) || (65 ≤ n && n ≤ 90) || (97 ≤ n && n ≤ 122) || n = 0x2A || n = 0x2D ||
    n = 0x2E || n = 0x5F

def encodeByte (b : UInt8) : List Char :=
  if isPlain b then [Char.ofNat b.toNat]
  else if b = 0x20 then ['+']
  else percentByte b

def encodeText (text : String) : List Char := (utf8Bytes text.toList).flatMap encodeByte

def encodePair (pair : String × String) : List Char :=
  encodeText pair.1 ++ '=' :: encodeText pair.2

def encode (pairs : List (String × String)) : List Char :=
  ['&'].intercalate (pairs.map encodePair)

def splitOn (c : Char) : List Char → List (List Char)
  | [] => [[]]
  | d :: rest =>
    if d = c then [] :: splitOn c rest
    else match splitOn c rest with
      | [] => [[d]]
      | part :: parts => (d :: part) :: parts

def decodeText (chars : List Char) : String :=
  let spaced := chars.map fun c => if c = '+' then ' ' else c
  Glyph.lossy (Glyph.ofBytes (percentDecode (utf8Bytes spaced)))

def decodePair (chars : List Char) : String × String :=
  (decodeText (chars.takeWhile (· != '=')), decodeText ((chars.dropWhile (· != '=')).drop 1))

/-- The pairs of a form-encoded text. Empty pieces between ampersands are no pairs. -/
def decode (chars : List Char) : List (String × String) :=
  ((splitOn '&' chars).filter (!·.isEmpty)).map decodePair

end SeriesClient.Url.Form
