import SeriesClient.Url.Domain
import SeriesClient.Decimal

/-! Hosts of URLs: domain names and addresses. A name whose last label is a number is an address. -/

namespace SeriesClient.Url

inductive Fault where
  | emptyHost
  | invalidDomain
  | invalidPort
  | invalidIpv4
  | invalidIpv6
  | invalidHostCharacter
  | relativeWithoutBase
  | relativeToOpaque
  deriving DecidableEq, Repr

def Fault.message : Fault → String
  | emptyHost => "empty host"
  | invalidDomain => "invalid international domain name"
  | invalidPort => "invalid port number"
  | invalidIpv4 => "invalid IPv4 address"
  | invalidIpv6 => "invalid IPv6 address"
  | invalidHostCharacter => "invalid domain character"
  | relativeWithoutBase => "relative URL without a base"
  | relativeToOpaque => "relative URL with a cannot-be-a-base base"

inductive Host where
  | domain (name : List Char)
  | ipv4 (address : Nat)
  | ipv6 (pieces : List Nat)
  deriving DecidableEq, Repr

namespace Host

def digitIn? (base : Nat) (c : Char) : Option Nat :=
  let d :=
    if '0' ≤ c && c ≤ '9' then c.toNat - 48
    else if 'a' ≤ c && c ≤ 'f' then c.toNat - 87
    else if 'A' ≤ c && c ≤ 'F' then c.toNat - 55
    else 16
  if d < base then some d else none

def numberIn? (base : Nat) (chars : List Char) : Option Nat :=
  chars.foldlM (fun n c => (digitIn? base c).map (n * base + ·)) 0

def part? (chars : List Char) : Option Nat :=
  match chars with
  | [] => none
  | '0' :: 'x' :: digits => numberIn? 16 digits
  | '0' :: 'X' :: digits => numberIn? 16 digits
  | '0' :: d :: digits => numberIn? 8 (d :: digits)
  | digits => numberIn? 10 digits

def isDigit (c : Char) : Bool := '0' ≤ c && c ≤ '9'

/-- The labels of a name, an empty last one after a final dot left out. -/
def partsOf (name : List Char) : List (List Char) :=
  let labels := Domain.splitLabels name
  if labels.getLast? = some [] then labels.dropLast else labels

def endsInNumber (name : List Char) : Bool :=
  match (partsOf name).getLast? with
  | none => false
  | some last => (!last.isEmpty && last.all isDigit) || (part? last).isSome

/-- The last part fills the places that the parts before it leave. -/
def ipv4? (name : List Char) : Option Nat := do
  let parts := partsOf name
  if 4 < parts.length then none
  else
    let numbers ← parts.mapM part?
    let last ← numbers.getLast?
    let others := numbers.dropLast
    let room := Nat.pow 256 (4 - others.length)
    if others.any (255 < ·) || room ≤ last then none
    else some (others.foldl (fun sum n => sum * 256 + n) 0 * room + last)

def ipv4Chars (address : Nat) : List Char :=
  let part (place : Nat) := Decimal.digitChars (address / place % 256)
  part 0x1000000 ++ '.' :: (part 0x10000 ++ '.' :: (part 0x100 ++ '.' :: part 1))

def piece : Nat → Nat → List Char → Nat × Nat × List Char
  | 0, value, rest => (0, value, rest)
  | _, value, [] => (0, value, [])
  | fuel + 1, value, c :: rest =>
    match digitIn? 16 c with
    | none => (0, value, c :: rest)
    | some d =>
      let (count, value, rest) := piece fuel (value * 16 + d) rest
      (count + 1, value, rest)

def tailPart? (chars : List Char) : Option Nat :=
  match chars with
  | [] => none
  | '0' :: _ :: _ => none
  | digits =>
    match numberIn? 10 digits with
    | some n => if n ≤ 255 then some n else none
    | none => none

/-- The two pieces that four decimal parts at the end stand for. -/
def tail? (chars : List Char) : Option (List Nat) :=
  match (Domain.splitLabels chars).mapM tailPart? with
  | some [a, b, c, d] => some [a * 256 + b, c * 256 + d]
  | _ => none

/-- The pieces read so far and where among them a run of zeros was left out. -/
structure Pieces where
  done : List Nat
  gap : Option Nat

def readPieces : Nat → Pieces → List Char → Option Pieces
  | _, p, [] => some p
  | 0, _, _ => none
  | fuel + 1, p, c :: rest =>
    if p.done.length = 8 then none
    else if c = ':' then
      if p.gap.isSome then none
      else readPieces fuel { p with gap := some p.done.length } rest
    else
      let (count, value, after) := piece 4 0 (c :: rest)
      match after with
      | [] => some { p with done := p.done ++ [value] }
      | '.' :: _ =>
        if count = 0 || 6 < p.done.length then none
        else (tail? (c :: rest)).map fun pieces => { p with done := p.done ++ pieces }
      | ':' :: after =>
        if after.isEmpty || count = 0 then none
        else readPieces fuel { p with done := p.done ++ [value] } after
      | _ => none

def ipv6? (chars : List Char) : Option (List Nat) := do
  let start ← match chars with
    | ':' :: ':' :: rest => some (some 0, rest)
    | ':' :: _ => none
    | rest => some (none, rest)
  let pieces ← readPieces (chars.length + 1) ⟨[], start.1⟩ start.2
  match pieces.gap with
  | some i =>
    if pieces.done.length ≤ 7 then
      some (pieces.done.take i ++ List.replicate (8 - pieces.done.length) 0 ++ pieces.done.drop i)
    else none
  | none => if pieces.done.length = 8 then some pieces.done else none

/-- The length of the run of zeros at the front. -/
def zeroRun (pieces : List Nat) : Nat := (pieces.takeWhile (· == 0)).length

/-- The first longest run of at least two zeros: where it starts and how long it is. -/
def longestRun : Nat → List Nat → Nat × Nat
  | _, [] => (0, 1)
  | i, p :: rest =>
    let here := zeroRun (p :: rest)
    let later := longestRun (i + 1) rest
    if 1 < here && later.2 ≤ here then (i, here) else later

def pieceChars (pieces : List Nat) : List Char :=
  [':'].intercalate (pieces.map (Nat.toDigits 16))

def ipv6Chars (pieces : List Nat) : List Char :=
  let (start, length) := longestRun 0 pieces
  if length < 2 then pieceChars pieces
  else
    pieceChars (pieces.take start) ++ ':' :: ':' :: pieceChars (pieces.drop (start + length))

def chars : Host → List Char
  | domain name => name
  | ipv4 address => ipv4Chars address
  | ipv6 pieces => '[' :: (ipv6Chars pieces ++ [']'])

/-- The address between brackets, for a host that opens with one. -/
def bracketed? (chars : List Char) : Except Fault Host :=
  match chars.reverse with
  | ']' :: rest =>
    match ipv6? rest.reverse with
    | some pieces => .ok (ipv6 pieces)
    | none => .error .invalidIpv6
  | _ => .error .invalidIpv6

/-- The host of a scheme whose hosts are domain names. -/
def parse (chars : List Char) : Except Fault Host :=
  match chars with
  | '[' :: rest => bracketed? rest
  | _ =>
    match (Glyph.strict? (Glyph.ofBytes (percentDecode (utf8Bytes chars)))).bind
        (Domain.toAscii? ·.toList) with
    | none => .error .invalidDomain
    | some [] => .error .emptyHost
    | some name =>
      if endsInNumber name then
        match ipv4? name with
        | some address => .ok (ipv4 address)
        | none => .error .invalidIpv4
      else .ok (domain name)

def isOpaqueForbidden (c : Char) : Bool :=
  c = '\x00' || c = '\t' || c = '\n' || c = '\r' || c = ' ' || c = '#' || c = '/' || c = ':' ||
    c = '<' || c = '>' || c = '?' || c = '@' || c = '[' || c = '\\' || c = ']' || c = '^' || c = '|'

/-- The host of a scheme that gives its hosts no meaning. -/
def parseOpaque (chars : List Char) : Except Fault Host :=
  match chars with
  | '[' :: rest => bracketed? rest
  | _ =>
    if chars.any isOpaqueForbidden then .error .invalidHostCharacter
    else .ok (domain (percentEncode isControl chars))

end Host
end SeriesClient.Url
