import SeriesClient.Text.Mark

/-! The direction in which a label of a domain name is read. A label has one direction; it opens
with a letter that has it, and ends with a letter or number that fits it. -/

namespace SeriesClient.Url.Domain

/-- The direction that a character gives to a text. The numbers with digits of their own that are
written within Arabic letters are kept apart from the others. -/
inductive Direction where
  | leftToRight
  | rightToLeft
  | number
  | arabicNumber
  | nonspacing
  | neutral
  deriving DecidableEq, Repr

def rightToLeftRanges : Text.Ranges := .ofText "5be 5c0 5c3 5c6 5d0-5f4 608 60b 60d 61b-64a
66d-66f 671-6d5 6e5-6e6 6ee-6ef 6fa-710 712-72f 74d-7a5 7b1-7ea 7f4-7f5 7fa 7fe-815 81a 824 828
830-858 85e-88f 8a0-8c9 fbb2-fbc2 fe73 10800-1091b 10920-10a00 10a10-10a35 10a40-10ae4
10aeb-10b35 10b40-10d23 10d4a-10d4f 10d6f-10d85 10e80-10ea9 10ead-10ec7 10f00-10f45 10f51-10f81
10f86-10ff6 1e800-1e8cf 1e922-1e943 1e94b-1ed3d"

/-- Digits outside ASCII that are read like those of ASCII. -/
def numberRanges : Text.Ranges := .ofText "6f0-6f9 102e1-102fb"

def arabicNumberRanges : Text.Ranges := .ofText "660-669 66b-66c 10d30-10d49 10e60-10e7e"

/-- Marks that take no room and yet count as letters. -/
def letterMarkRanges : Text.Ranges := .ofText "cbf cc6 11a07-11a08 11c3f"

/-- Signs outside ASCII without a direction of their own. -/
def neutralRanges : Text.Ranges := .ofText "a1-d7 f7 2b9-2ba 2c2-2cf 2d2-2ed 2ef-2ff 375 3f6
58a-58f 606-607 609-60a 60c 60e-60f 66a 6de 6e9 7f6-7f9 9f2-9f3 9fb af1 bf3-bfa c78-c7e e3f
f3a-f3d 1390-1399 1400 169b-169c 17db 17f0-180a 1940-1945 19de-19ff 200c-20c1 2104-214d 218a-2335
237b-2394 2396-26ab 26ad-27ff 2900-2bff 2ce5-2cea 2cf9-2cff 2e00-3004 3008-3020 3030 3037
303d-303f 30a0 30fb 31c0-31e5 4dc0-4dff a490-a4c6 a60d-a60f a673 a67e-a67f a700-a721 a788
a828-a82b a838-a839 a874-a877 ab6a-ab6b fbc3-fdff fe45-fe46 10101 10140-1018c 10190-101a0 1091f
10b39-10b3f 10d6e 10d8e-10d8f 10ed0-10ed8 11052-11065 11660-1166c 11fd5-11ff1 16fe2 1cc00-1cef0
1d1e9-1d241 1d245 1d300-1d356 1e2ff 1eef0-1f12f 1f16d-1f16f 1f1ad 1f260-1fbfa"

def Direction.ofAscii (c : Char) : Direction :=
  if c.isAlpha then leftToRight else if c.isDigit then number else neutral

def Direction.of (c : Char) : Direction :=
  if c.toNat < 0x80 then ofAscii c
  else if rightToLeftRanges.contains c then rightToLeft
  else if numberRanges.contains c then number
  else if arabicNumberRanges.contains c then arabicNumber
  else if neutralRanges.contains c then neutral
  else if Text.isNonspacingMark c && !letterMarkRanges.contains c then nonspacing
  else leftToRight

/-- Whether a character makes the direction of its whole name matter. -/
def Direction.turns : Direction → Bool
  | rightToLeft => true
  | arabicNumber => true
  | _ => false

/-- The last character and those between it and the first, of a label from left to right. -/
def keepsLeftToRight (last : Direction) (between : List Direction) : Bool :=
  (last == .leftToRight || last == .number) && !between.any Direction.turns

/-- The last character and those between it and the first, of a label from right to left. Its
numbers are of one kind. -/
def keepsRightToLeft (last : Direction) (between : List Direction) : Bool :=
  (last == .rightToLeft || last == .number || last == .arabicNumber) &&
    !between.contains .leftToRight &&
    !((last :: between).contains .number && (last :: between).contains .arabicNumber)

/-- Whether a label has one direction. The marks at its end do not count. -/
def hasOneDirection (label : List Char) : Bool :=
  match label.map Direction.of with
  | [] => true
  | first :: rest =>
    (first == .leftToRight || first == .rightToLeft) &&
      match rest.reverse.dropWhile (· == .nonspacing) with
      | [] => true
      | last :: between =>
        if first == .leftToRight then keepsLeftToRight last between
        else keepsRightToLeft last between

end SeriesClient.Url.Domain
