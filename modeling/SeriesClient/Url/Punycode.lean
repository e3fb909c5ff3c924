/-! Punycode: letters outside ASCII written with letters, digits and hyphens. Each such letter is a
step count over all places and code points still possible, in digits of base 36 whose threshold
adapts to the steps before. -/

namespace SeriesClient.Url.Punycode

def digitChar (d : Nat) : Char := if d < 26 then Char.ofNat (97 + d) else Char.ofNat (22 + d)

def digitValue? (c : Char) : Option Nat :=
  if 'a' ≤ c && c ≤ 'z' then some (c.toNat - 97)
  else if 'A' ≤ c && c ≤ 'Z' then some (c.toNat - 65)
  else if '0' ≤ c && c ≤ '9' then some (c.toNat - 22)
  else none

/-- The digit at place `k` below which a number ends, between 1 and 26. -/
def threshold (bias k : Nat) : Nat := max 1 (min 26 (k - bias))

def shrink : Nat → Nat → Nat → Nat × Nat
  | 0, delta, k => (delta, k)
  | fuel + 1, delta, k => if 455 < delta then shrink fuel (delta / 35) (k + 36) else (delta, k)

/-- The bias after a step of length `delta`, the `count`-th letter having been placed. -/
def adapt (delta count : Nat) (first : Bool) : Nat :=
  let delta := if first then delta / 700 else delta / 2
  let (delta, k) := shrink 64 (delta + delta / count) 0
  k + 36 * delta / (delta + 38)

def numberDigits : Nat → Nat → Nat → Nat → List Char
  | 0, _, _, _ => []
  | fuel + 1, bias, k, q =>
    let t := threshold bias k
    if q < t then [digitChar q]
    else digitChar (t + (q - t) % (36 - t)) :: numberDigits fuel bias (k + 36) ((q - t) / (36 - t))

structure Progress where
  written : List Char
  delta : Nat
  bias : Nat
  placed : Nat

/-- Passes over the label once for the code point `n`, of which every occurrence is placed. -/
def placeAll (basic n : Nat) (p : Progress) : List Char → Progress
  | [] => p
  | c :: rest =>
    if c.toNat < n then placeAll basic n { p with delta := p.delta + 1 } rest
    else if c.toNat = n then
      placeAll basic n
        { written := p.written ++ numberDigits (p.delta + 1) p.bias 36 p.delta
          delta := 0
          bias := adapt p.delta (p.placed + 1) (p.placed == basic)
          placed := p.placed + 1 } rest
    else placeAll basic n p rest

/-- The least code point of a label that is at least `n`. -/
def leastFrom (n : Nat) (label : List Char) : Option Nat :=
  label.foldl (fun best c =>
    if c.toNat < n then best
    else match best with
      | none => some c.toNat
      | some m => some (min m c.toNat)) none

def encodeFrom : Nat → Nat → Nat → List Char → Progress → Progress
  | 0, _, _, _, p => p
  | fuel + 1, basic, n, label, p =>
    match leastFrom n label with
    | none => p
    | some m =>
      let p := placeAll basic m { p with delta := p.delta + (m - n) * (p.placed + 1) } label
      encodeFrom fuel basic (m + 1) label { p with delta := p.delta + 1 }

def encode (label : List Char) : List Char :=
  let plain := label.filter (·.toNat < 0x80)
  let start : List Char := if plain.isEmpty then [] else plain ++ ['-']
  (encodeFrom label.length plain.length 0x80 label ⟨start, 0, 72, plain.length⟩).written

def readNumber (bias k weight sum : Nat) : List Char → Option (Nat × List Char)
  | [] => none
  | c :: rest =>
    match digitValue? c with
    | none => none
    | some d =>
      let t := threshold bias k
      let sum := sum + d * weight
      if d < t then some (sum, rest) else readNumber bias (k + 36) (weight * (36 - t)) sum rest

def isScalar (n : Nat) : Bool := n < 0xD800 || (0xE000 ≤ n && n < 0x110000)

def decodeFrom : Nat → Nat → Nat → Nat → List Char → List Char → Option (List Char)
  | _, _, _, _, label, [] => some label
  | 0, _, _, _, _, _ => none
  | fuel + 1, n, i, bias, label, code =>
    match readNumber bias 36 1 i code with
    | none => none
    | some (sum, rest) =>
      let count := label.length + 1
      let n := n + sum / count
      if isScalar n then
        let place := sum % count
        decodeFrom fuel n (place + 1) (adapt (sum - i) count (i == 0))
          (label.take place ++ Char.ofNat n :: label.drop place) rest
      else none

/-- The label that a form without its `xn--` stands for. -/
def decode? (code : List Char) : Option (List Char) :=
  let reversed := code.reverse
  let tail := (reversed.takeWhile (· != '-')).reverse
  let head := ((reversed.dropWhile (· != '-')).drop 1).reverse
  if head.all (·.toNat < 0x80) then decodeFrom tail.length 0x80 0 72 head tail else none

end SeriesClient.Url.Punycode
