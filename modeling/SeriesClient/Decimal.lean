/-! Floating-point numbers written in decimal: the fewest digits that read back as the number, and
the layouts in which those digits are written. -/

namespace SeriesClient

/-- The magnitude of a finite number, `mantissa * 2 ^ exponent`. `tight` marks the smallest mantissa
of a binade, whose lower neighbour is only half as far away as the upper one. -/
structure Dyadic where
  mantissa : Nat
  exponent : Int
  tight : Bool
  deriving DecidableEq, Repr

namespace Dyadic

/-- Reads the fields of the 64-bit format; meant for finite numbers. -/
def ofFloat (x : Float) : Dyadic :=
  let bits := x.toBits.toNat
  let fraction := bits % 0x10000000000000
  let biased := bits / 0x10000000000000 % 0x800
  if biased = 0 then ⟨fraction, -1074, false⟩
  else ⟨fraction + 0x10000000000000, (biased : Int) - 1075, fraction == 0 && biased != 1⟩

end Dyadic

/-- The number `digits * 10 ^ exponent`. -/
structure Decimal where
  digits : Nat
  exponent : Int
  deriving DecidableEq, Repr

namespace Decimal

inductive Tie where
  | toEven | up
  deriving DecidableEq, Repr

/-- The point of the grid of step `10 ^ p` that is nearest to `d` among those that round to `d`.

In units of the step the number is `4 * mantissa * a / b`, and what rounds to it reaches from
`2 * a / b` (`a / b` under a tight mantissa) below to `2 * a / b` above, ends included when the
mantissa is even. -/
def onGrid? (tie : Tie) (d : Dyadic) (p : Int) : Option Nat :=
  let a := Nat.pow 2 d.exponent.toNat * Nat.pow 10 (-p).toNat
  let b := 4 * Nat.pow 2 (-d.exponent).toNat * Nat.pow 10 p.toNat
  let low := 4 * d.mantissa * a / b
  let below := 4 * d.mantissa * a % b
  let above := b - below
  let even := d.mantissa % 2 == 0
  let reachBelow := if d.tight then a else 2 * a
  let hitsLow := below < reachBelow || (even && below == reachBelow)
  let hitsHigh := above < 2 * a || (even && above == 2 * a)
  if hitsLow && hitsHigh then
    if below < above then some low
    else if above < below then some (low + 1)
    else match tie with
      | .toEven => some (if low % 2 == 0 then low else low + 1)
      | .up => some (low + 1)
  else if hitsLow then some low
  else if hitsHigh then some (low + 1)
  else none

/-- Tries ever finer grids from step `10 ^ p` on. -/
def search (tie : Tie) (d : Dyadic) : Nat → Int → Decimal
  | 0, p => ⟨0, p⟩
  | n + 1, p =>
    match onGrid? tie d p with
    | some digits => ⟨digits, p⟩
    | none => search tie d n (p - 1)

/-- A power of ten above the number: `30103 / 100000` is just over the logarithm of 2. -/
def topExponent (d : Dyadic) : Int :=
  (d.mantissa.log2 + 1 + d.exponent) * 30103 / 100000 + 2

/-- The nearest of the shortest decimals that read back as the number. Twenty-four grids reach well
past the seventeen digits that always suffice. -/
def shortest (tie : Tie) (d : Dyadic) : Decimal :=
  if d.mantissa = 0 then ⟨0, 0⟩ else search tie d 24 (topExponent d)

structure Layout where
  tie : Tie
  /-- The powers of ten of the first digit that are written positionally; outside them an exponent
  with a sign is written. -/
  positional : Int → Bool
  /-- Whether a whole number written positionally ends in `.0`. -/
  pointZero : Bool

def digitChars (n : Nat) : List Char := Nat.toDigits 10 n

theorem isDigit_of_mem_digitChars {n : Nat} {c : Char} (h : c ∈ digitChars n) : c.isDigit = true :=
  Nat.isDigit_of_mem_toDigits (by decide) (by decide) h

/-- Digits whose first stands for `10 ^ lead`, written out with a point. -/
def writePositional (pointZero : Bool) (digits : List Char) (lead : Int) : List Char :=
  if lead < 0 then
    '0' :: '.' :: (List.replicate ((-lead).toNat - 1) '0' ++ digits)
  else
    let whole := lead.toNat + 1
    if digits.length ≤ whole then
      digits ++ List.replicate (whole - digits.length) '0' ++ (if pointZero then ['.', '0'] else [])
    else
      digits.take whole ++ '.' :: digits.drop whole

def writeExponent (digits : List Char) (lead : Int) : List Char :=
  let significand := match digits with
    | [] => []
    | [d] => [d]
    | d :: rest => d :: '.' :: rest
  significand ++ 'e' :: (if lead < 0 then '-' else '+') :: digitChars lead.natAbs

def write (layout : Layout) (d : Decimal) : List Char :=
  let digits := digitChars d.digits
  let lead := if d.digits = 0 then 0 else d.exponent + digits.length - 1
  if layout.positional lead then writePositional layout.pointZero digits lead
  else writeExponent digits lead

end Decimal

def isSigned (x : Float) : Bool := 0x8000000000000000 ≤ x.toBits.toNat

/-- A number in a layout; what is not finite is written `NaN`, `inf` or `-inf`. -/
def Decimal.Layout.text (layout : Decimal.Layout) (x : Float) : List Char :=
  if x.isNaN then "NaN".toList
  else
    let magnitude :=
      if x.isInf then "inf".toList
      else Decimal.write layout (Decimal.shortest layout.tie (Dyadic.ofFloat x))
    if isSigned x then '-' :: magnitude else magnitude

end SeriesClient
