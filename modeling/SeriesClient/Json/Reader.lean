import SeriesClient.Json.Failure

/-! Reading JSON texts: blanks, literals, strings, and the commas and brackets of lists and objects.
A reader takes what it reads off the front of a text. -/

namespace SeriesClient.Json

abbrev Reader (α : Type) := StateT (List Glyph) (Except Failure) α

namespace Reader

variable {α σ : Type}

def failHere (fault : Fault) : Reader α :=
  fun text => .error ⟨fault, Glyph.size text⟩

/-- Fails at the byte the reader looks at, which counts as read. -/
def failAhead (fault : Fault) : Reader α :=
  fun text => .error ⟨fault, Glyph.size text - 1⟩

def isSpace : Glyph → Bool
  | .char c => c = ' ' || c = '\n' || c = '\t' || c = '\r'
  | .stray _ => false

def skipBlanks : Reader Unit := fun text => .ok ((), text.dropWhile isSpace)

def peek : Reader (Option Glyph) := fun text => .ok (text.head?, text)

def advance : Reader Unit := fun text => .ok ((), text.tail)

/-- The next item after blanks, left in place. -/
def peekToken : Reader (Option Glyph) := do
  skipBlanks
  peek

/-- Takes the rest of a literal such as `null`, whose first letter told which one is meant. -/
def expectRest : List Char → Reader Unit
  | [] => pure ()
  | c :: cs => fun text =>
    match text with
    | [] => failHere .endInValue []
    | g :: rest =>
      if g = .char c then expectRest cs rest
      else .error ⟨.expectedIdent, Glyph.size text - 1⟩

/-- Where a string being read stands: in plain text, after a backslash, in the four digits of an
escape, or between the two escapes of a surrogate pair. -/
inductive StringState where
  | plain
  | escape
  | hex (count value : Nat)
  | pairSlash (high : Nat)
  | pairU (high : Nat)
  | pairHex (high count value : Nat)
  deriving DecidableEq

def hexValue? : Glyph → Option Nat
  | .char c =>
    if '0' ≤ c && c ≤ '9' then some (c.toNat - 48)
    else if 'a' ≤ c && c ≤ 'f' then some (c.toNat - 87)
    else if 'A' ≤ c && c ≤ 'F' then some (c.toNat - 55)
    else none
  | .stray _ => none

def escaped? : Char → Option Char
  | '"' => some '"'
  | '\\' => some '\\'
  | '/' => some '/'
  | 'b' => some '\x08'
  | 'f' => some '\x0c'
  | 'n' => some '\n'
  | 'r' => some '\r'
  | 't' => some '\t'
  | _ => none

def isHigh (n : Nat) : Bool := 0xD800 ≤ n && n ≤ 0xDBFF

def isLow (n : Nat) : Bool := 0xDC00 ≤ n && n ≤ 0xDFFF

/-- Four digits are looked at together, so a text with fewer than four bytes left ends early and
one with a wrong digit among them fails after the fourth. -/
def hexFailure (count unread : Nat) : Failure :=
  if unread + count < 4 then ⟨.endInString, 0⟩ else ⟨.invalidEscape, unread + count - 4⟩

/-- Reads on to the closing quote; `done` holds what was read, last item first. -/
def scanString (state : StringState) (done : List Glyph) :
    List Glyph → Except Failure (List Glyph × List Glyph)
  | [] => .error ⟨.endInString, 0⟩
  | g :: rest =>
    match state with
    | .plain =>
      if g = .char '"' then .ok (done.reverse, rest)
      else if g = .char '\\' then scanString .escape done rest
      else match g with
        | .char c =>
          if c.toNat < 0x20 then .error ⟨.controlCharacter, Glyph.size rest⟩
          else scanString .plain (g :: done) rest
        | .stray _ => scanString .plain (g :: done) rest
    | .escape =>
      match g with
      | .char 'u' => scanString (.hex 0 0) done rest
      | .char c =>
        match escaped? c with
        | some e => scanString .plain (.char e :: done) rest
        | none => .error ⟨.invalidEscape, Glyph.size (g :: rest) - 1⟩
      | .stray _ => .error ⟨.invalidEscape, Glyph.size (g :: rest) - 1⟩
    | .hex count value =>
      match hexValue? g with
      | none => .error (hexFailure count (Glyph.size (g :: rest)))
      | some d =>
        let value := value * 16 + d
        if count < 3 then scanString (.hex (count + 1) value) done rest
        else if isLow value then .error ⟨.loneSurrogate, Glyph.size rest⟩
        else if isHigh value then scanString (.pairSlash value) done rest
        else scanString .plain (.char (Char.ofNat value) :: done) rest
    | .pairSlash high =>
      if g = .char '\\' then scanString (.pairU high) done rest
      else .error ⟨.openSurrogate, Glyph.size (g :: rest) - 1⟩
    | .pairU high =>
      if g = .char 'u' then scanString (.pairHex high 0 0) done rest
      else .error ⟨.openSurrogate, Glyph.size (g :: rest) - 1⟩
    | .pairHex high count value =>
      match hexValue? g with
      | none => .error (hexFailure count (Glyph.size (g :: rest)))
      | some d =>
        let value := value * 16 + d
        if count < 3 then scanString (.pairHex high (count + 1) value) done rest
        else if isLow value then
          let c := Char.ofNat ((high - 0xD800) * 0x400 + (value - 0xDC00) + 0x10000)
          scanString .plain (.char c :: done) rest
        else .error ⟨.loneSurrogate, Glyph.size rest⟩

/-- The string whose opening quote was just taken. Bytes that are not text are found out only at the
closing quote. -/
def readString : Reader String := fun text =>
  match scanString .plain [] text with
  | .error failure => .error failure
  | .ok (glyphs, rest) =>
    match Glyph.strict? glyphs with
    | some s => .ok (s, rest)
    | none => .error ⟨.invalidCodePoint, Glyph.size rest⟩

inductive SkipState where
  | plain
  | escape
  | hex (count : Nat)

/-- Passes over a string nobody asked for: its escapes need only be well formed, and its bytes need
not be text. -/
def scanSkipped (state : SkipState) : List Glyph → Except Failure (Unit × List Glyph)
  | [] => .error ⟨.endInString, 0⟩
  | g :: rest =>
    match state with
    | .plain =>
      if g = .char '"' then .ok ((), rest)
      else if g = .char '\\' then scanSkipped .escape rest
      else match g with
        | .char c =>
          if c.toNat < 0x20 then .error ⟨.controlCharacter, Glyph.size (g :: rest)⟩
          else scanSkipped .plain rest
        | .stray _ => scanSkipped .plain rest
    | .escape =>
      match g with
      | .char 'u' => scanSkipped (.hex 0) rest
      | .char c =>
        if (escaped? c).isSome then scanSkipped .plain rest
        else .error ⟨.invalidEscape, Glyph.size (g :: rest) - 1⟩
      | .stray _ => .error ⟨.invalidEscape, Glyph.size (g :: rest) - 1⟩
    | .hex count =>
      match hexValue? g with
      | none => .error (hexFailure count (Glyph.size (g :: rest)))
      | some _ => if count < 3 then scanSkipped (.hex (count + 1)) rest else scanSkipped .plain rest

def skipString : Reader Unit := fun text => scanSkipped .plain text

def moreItems (first : Bool) : Reader Bool := do
  match ← peekToken with
  | none => failAhead .endInList
  | some g =>
    if g = .char ']' then pure false
    else if first then pure true
    else if g = .char ',' then
      advance
      match ← peekToken with
      | none => failAhead .endInValue
      | some g => if g = .char ']' then failAhead .trailingComma else pure true
    else failAhead .expectedListEnd

/-- Takes the bracket that closes a list of which nothing more is wanted. -/
def endList : Reader Unit := do
  match ← peekToken with
  | none => failAhead .endInList
  | some g =>
    if g = .char ']' then advance
    else if g = .char ',' then
      advance
      if (← peekToken) = some (.char ']') then failAhead .trailingComma
      else failAhead .trailingCharacters
    else failAhead .trailingCharacters

/-- Whether another member follows in an object whose opening brace was taken. -/
def moreMembers (first : Bool) : Reader Bool := do
  match ← peekToken with
  | none => failAhead .endInObject
  | some g =>
    if g = .char '\x7d' then pure false
    else if first then
      if g = .char '"' then pure true else failAhead .keyNotString
    else if g = .char ',' then
      advance
      match ← peekToken with
      | none => failAhead .endInValue
      | some g =>
        if g = .char '"' then pure true
        else if g = .char '\x7d' then failAhead .trailingComma
        else failAhead .keyNotString
    else failAhead .expectedObjectEnd

def endObject : Reader Unit := do
  match ← peekToken with
  | none => failAhead .endInObject
  | some g =>
    if g = .char '\x7d' then advance
    else if g = .char ',' then failAhead .trailingComma
    else failAhead .trailingCharacters

def colon : Reader Unit := do
  match ← peekToken with
  | none => failAhead .endInObject
  | some g => if g = .char ':' then advance else failAhead .expectedColon

/-- The elements of a list up to its closing bracket, which is left in place. -/
def itemsUpTo (item : Reader α) : Nat → Bool → Reader (List α)
  | 0, _ => failHere .endInList
  | fuel + 1, first => do
    if ← moreItems first then
      let x ← item
      let xs ← itemsUpTo item fuel false
      pure (x :: xs)
    else pure []

/-- Each element takes at least one item of the text, so its length bounds their number. -/
def items (item : Reader α) : Reader (List α) := fun text =>
  itemsUpTo item (text.length + 1) true text

/-- Folds over the members of an object up to its closing brace, which is left in place. `member`
is given the name and reads on from the colon. -/
def membersUpTo (member : String → σ → Reader σ) : Nat → Bool → σ → Reader σ
  | 0, _, _ => failHere .endInObject
  | fuel + 1, first, state => do
    if ← moreMembers first then
      advance
      let name ← readString
      let state ← member name state
      membersUpTo member fuel false state
    else pure state

def members (member : String → σ → Reader σ) (start : σ) : Reader σ := fun text =>
  membersUpTo member (text.length + 1) true start text

def atEnd : Reader Unit := do
  match ← peekToken with
  | none => pure ()
  | some _ => failAhead .trailingCharacters

def run (reader : Reader α) (text : List Glyph) : Except Failure α :=
  (do let x ← reader; atEnd; pure x : Reader α).run' text

end Reader
end SeriesClient.Json
