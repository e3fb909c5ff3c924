import SeriesClient.Json.Reader

/-! Numbers in JSON texts. A numeral is read in two steps: its digits, and the number they stand for.

An integer of 64 bits is exact. Any other number is found by rounding twice: the digits that fit a
64-bit word are rounded to a floating-point number, which is then multiplied or divided by a rounded
power of ten. -/

namespace SeriesClient.Json

structure Numeral where
  negative : Bool
  whole : List Nat
  fraction : Option (List Nat)
  /-- The sign of the exponent, true for plus, and its digits. -/
  exponent : Option (Bool × List Nat)

namespace Numeral

def digit? : Glyph → Option Nat
  | .char c => if '0' ≤ c && c ≤ '9' then some (c.toNat - 48) else none
  | .stray _ => none

def digits : List Glyph → List Nat × List Glyph
  | [] => ([], [])
  | g :: rest =>
    match digit? g with
    | some d => let (ds, tail) := digits rest; (d :: ds, tail)
    | none => ([], g :: rest)

/-- The first number that does not fit a word of 64 bits. -/
def wordBound : Nat := 0x10000000000000000

/-- The significand, and the power of ten that goes with it. -/
structure Scaled where
  significand : Nat
  exponent : Int

/-- Takes in digits of the whole part while they fit a word; the others only count. -/
def takeWhole (s : Nat) : List Nat → Scaled
  | [] => ⟨s, 0⟩
  | d :: ds => if s * 10 + d < wordBound then takeWhole (s * 10 + d) ds else ⟨s, ds.length + 1⟩

/-- Takes in digits of the fraction while they fit a word and leaves out the others. -/
def takeFraction (s : Scaled) : List Nat → Scaled
  | [] => s
  | d :: ds =>
    if s.significand * 10 + d < wordBound then
      takeFraction ⟨s.significand * 10 + d, s.exponent - 1⟩ ds
    else s

/-- The first number that does not fit the 31 bits of an exponent. -/
def exponentBound : Nat := 0x80000000

/-- The value of exponent digits, or, when it passes 31 bits, how many digits were left by then. -/
def takeExponent (e : Nat) : List Nat → Except Nat Nat
  | [] => .ok e
  | d :: ds => if e * 10 + d < exponentBound then takeExponent (e * 10 + d) ds else .error ds.length

def powerOfTen (n : Nat) : Float := Float.ofScientific 1 false n

/-- Divides by powers of ten no greater than `10 ^ 308`; four steps leave nothing of any word. -/
def scaleDown : Nat → Float → Int → Float
  | 0, x, _ => x
  | steps + 1, x, e =>
    if -308 ≤ e then x / powerOfTen (-e).toNat
    else if x == 0.0 then x
    else scaleDown steps (x / powerOfTen 308) (e + 308)

/-- The number nearest to a significand times a power of ten, up to rounding; `none` past the largest
finite number. -/
def scale (s : Scaled) : Option Float :=
  let x := (UInt64.ofNat s.significand).toFloat
  if s.exponent < 0 then some (scaleDown 4 x s.exponent)
  else if s.exponent ≤ 308 then
    let y := x * powerOfTen s.exponent.toNat
    if y.isInf then none else some y
  else if s.significand = 0 then some x
  else none

def signed (negative : Bool) (x : Float) : Float := if negative then -x else x

/-- A value that is not finite cannot come out of `scale`. -/
def ofFloat? (x : Float) : Option Number :=
  if h : x.isFinite = true then some (.real x h) else none

/-- The number a numeral stands for; out of range, the count of its digits not yet looked at. -/
def value (n : Numeral) : Except Nat Number :=
  let inRange (r : Option Number) : Except Nat Number :=
    match r with
    | some x => .ok x
    | none => .error 0
  let whole := takeWhole 0 n.whole
  let real (s : Scaled) : Except Nat Number :=
    inRange ((scale s).bind fun x => ofFloat? (signed n.negative x))
  let scaled := match n.fraction with
    | none => whole
    | some ds => takeFraction whole ds
  match n.exponent with
  | some (plus, ds) =>
    match takeExponent 0 ds with
    | .error left =>
      if plus && scaled.significand != 0 then .error left
      else inRange (ofFloat? (signed n.negative 0.0))
    | .ok e => real ⟨scaled.significand, if plus then scaled.exponent + e else scaled.exponent - e⟩
  | none =>
    let exact : Int := if n.negative then -(whole.significand : Int) else whole.significand
    -- There is no integer minus zero.
    if h : n.fraction.isNone && whole.exponent == 0 && (exact != 0 || !n.negative) &&
        decide (Fits exact) then
      .ok (.integer exact (by simp only [Bool.and_eq_true, decide_eq_true_eq] at h; exact h.2))
    else real scaled

end Numeral

namespace Reader

def fractionDigits : Reader (Option (List Nat)) := do
  if (← peek) = some (.char '.') then
    advance
    let ds ← fun text => .ok (Numeral.digits text)
    if ds.isEmpty then
      match ← peek with
      | some _ => failAhead .invalidNumber
      | none => failAhead .endInValue
    else pure (some ds)
  else pure none

/-- The sign of an exponent, true for plus, which may be left out. -/
def exponentSign : Reader Bool := do
  let sign ← peek
  if sign = some (.char '+') || sign = some (.char '-') then advance
  pure (sign != some (.char '-'))

def exponentDigits : Reader (Option (Bool × List Nat)) := do
  let mark ← peek
  if mark = some (.char 'e') || mark = some (.char 'E') then
    advance
    let plus ← exponentSign
    match ← peek with
    | none => failHere .endInValue
    | some g =>
      match Numeral.digit? g with
      | none => failAhead .invalidNumber
      | some _ =>
        let ds ← fun text => .ok (Numeral.digits text)
        pure (some (plus, ds))
  else pure none

/-- The whole part of a numeral: one zero, or digits that do not start with one. -/
def wholeDigits : Reader (List Nat) := do
  match ← peek with
  | none => failHere .endInValue
  | some g =>
    match Numeral.digit? g with
    | none => failAhead .invalidNumber
    | some 0 =>
      advance
      match (← peek).bind Numeral.digit? with
      | some _ => failAhead .invalidNumber
      | none => pure [0]
    | some _ => fun text => .ok (Numeral.digits text)

def readNumeral : Reader Numeral := do
  let negative := (← peek) = some (.char '-')
  if negative then advance
  let whole ← wholeDigits
  let fraction ← fractionDigits
  let exponent ← exponentDigits
  pure ⟨negative, whole, fraction, exponent⟩

/-- A number whose first character is a minus sign or a digit. -/
def readNumber : Reader Number := do
  let numeral ← readNumeral
  match numeral.value with
  | .ok n => pure n
  | .error left => fun text => .error ⟨.numberOutOfRange, Glyph.size text + left⟩

def skipDigits : Reader Unit := do
  let ds ← fun text => .ok (Numeral.digits text)
  if ds.isEmpty then failAhead .invalidNumber

def skipWhole : Reader Unit := do
  match ← peek with
  | none => failHere .invalidNumber
  | some g =>
    match Numeral.digit? g with
    | none => failAhead .invalidNumber
    | some 0 =>
      advance
      if ((← peek).bind Numeral.digit?).isSome then failAhead .invalidNumber
    | some _ => skipDigits

def skipFraction : Reader Unit := do
  if (← peek) = some (.char '.') then
    advance
    skipDigits

def skipExponent : Reader Unit := do
  let mark ← peek
  if mark = some (.char 'e') || mark = some (.char 'E') then
    advance
    let _ ← exponentSign
    skipDigits

def skipNumber : Reader Unit := do
  if (← peek) = some (.char '-') then advance
  skipWhole
  skipFraction
  skipExponent

end Reader
end SeriesClient.Json
