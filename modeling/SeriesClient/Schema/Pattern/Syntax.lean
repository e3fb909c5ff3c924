import SeriesClient.Text.Alphabet
import SeriesClient.Text.Blank
import SeriesClient.Schema.Pattern.Property

/-! The grammar of patterns that match without looking around. A pattern is read once, from left to
right; what counts is whether it can be read, and how deep its parts lie in one another. -/

namespace SeriesClient.Schema.Pattern

/-- Why a text is not read to its end. -/
inductive Fault where
  /-- It looks ahead, behind or back at a group. -/
  | beyond
  /-- An escape for a control character by a letter, and the text from its backslash on. -/
  | control (rest : List Char)
  | malformed

structure Scan where
  rest : List Char
  /-- Blanks and comments between the parts do not count. -/
  spaced : Bool
  names : List (List Char)
  /-- Properties have to be known. -/
  strict : Bool
  /-- The room that the characters and properties read so far take. -/
  room : Nat

abbrev Read := StateT Scan (Except Fault)

def fail {α : Type} : Read α := throw .malformed

def peek? : Read (Option Char) := return (← get).rest.head?

def advance : Read Unit := modify fun s => { s with rest := s.rest.drop 1 }

/-- Leaves out blanks, and comments from a number sign to the end of the line. -/
def dropBlanks (comment : Bool) : List Char → List Char
  | [] => []
  | c :: rest =>
    if comment then dropBlanks (c != '\n') rest
    else if Text.isBlank c then dropBlanks false rest
    else if c = '#' then dropBlanks true rest
    else c :: rest

def skip : Read Unit :=
  modify fun s => if s.spaced then { s with rest := dropBlanks false s.rest } else s

/-- The character after the one at hand, which then is the one at hand. -/
def next? : Read (Option Char) := do
  advance
  skip
  peek?

/-- A look at the character after the one at hand. Of a comment only the first sign is passed. -/
def peekNext? : Read (Option Char) := do
  let s ← get
  if s.spaced then
    match (s.rest.drop 1).dropWhile Text.isBlank with
    | '#' :: rest => pure (rest.dropWhile Text.isBlank).head?
    | rest => pure rest.head?
  else pure (s.rest.drop 1).head?

def addRoom (n : Nat) : Read Unit := modify fun s => { s with room := s.room + n }

def isDigit (c : Char) : Bool := '0' ≤ c && c ≤ '9'

def isLetter (c : Char) : Bool := ('a' ≤ c && c ≤ 'z') || ('A' ≤ c && c ≤ 'Z')

def hexValue? (c : Char) : Option Nat :=
  if isDigit c then some (c.toNat - 48)
  else if 'a' ≤ c && c ≤ 'f' then some (c.toNat - 87)
  else if 'A' ≤ c && c ≤ 'F' then some (c.toNat - 55)
  else none

def isScalar (n : Nat) : Bool := n < 0xD800 || (0xE000 ≤ n && n < 0x110000)

/-- What a part of a pattern that is no bracket or group stands for. -/
inductive Atom where
  | char (number : Nat)
  | characters
  /-- A place and no character. -/
  | place
  deriving DecidableEq

def fixedHex : Nat → Nat → Read Nat
  | 0, value => pure value
  | digits + 1, value => do
    match (← peek?).bind hexValue? with
    | none => fail
    | some d =>
      advance
      skip
      fixedHex digits (value * 16 + d)

/-- The digits between braces, from the opening one on. -/
def bracedHex : Nat → Nat → Bool → Read Nat
  | 0, _, _ => fail
  | fuel + 1, value, begun => do
    match ← next? with
    | none => fail
    | some c =>
      if c = '\x7d' then
        if begun then
          advance
          skip
          pure value
        else fail
      else
        match hexValue? c with
        | some d => bracedHex fuel (value * 16 + d) true
        | none => fail

/-- A character by its number, after the letter of the escape. -/
def hexEscape (digits : Nat) : Read Atom := do
  let number ← match ← next? with
    | none => fail
    | some c => if c = '\x7b' then bracedHex (← get).rest.length 0 false else fixedHex digits 0
  if isScalar number then pure (.char number) else fail

/-- What stands between braces, from the opening one on. -/
def braced : Nat → List Char → Read (List Char)
  | 0, _ => fail
  | fuel + 1, found => do
    match ← next? with
    | none => fail
    | some c =>
      if c = '\x7d' then
        advance
        pure found.reverse
      else braced fuel (c :: found)

/-- A class by the name of a property, after the letter of the escape. -/
def propertyEscape : Read Atom := do
  let query ← match ← next? with
    | none => fail
    | some c =>
      if c = '\x7b' then braced (← get).rest.length []
      else if c = '\\' then fail
      else do
        advance
        pure [c]
  if (← get).strict then
    match propertyRoom? query with
    | some room => addRoom room
    | none => fail
  pure .characters

def isWordMarkChar (c : Char) : Bool := isLetter c || c = '-'

def wordMarkName : Nat → List Char → Read (List Char)
  | 0, found => pure found.reverse
  | fuel + 1, found => do
    match ← peek? with
    | some c =>
      if isWordMarkChar c then
        advance
        skip
        wordMarkName fuel (c :: found)
      else pure found.reverse
    | none => pure found.reverse

/-- A side of a word may follow in braces. Braces with a digit in them are a repetition. -/
def wordMark : Read Unit := do
  let start ← get
  if (← peek?) = some '\x7b' then
    match ← next? with
    | none => fail
    | some c =>
      if isWordMarkChar c then
        let name ← wordMarkName (← get).rest.length []
        if (← peek?) = some '\x7d' &&
            ["start", "end", "start-half", "end-half"].contains (String.ofList name) then advance
        else fail
      else set start

/-- The characters that stand for others after a backslash. -/
def escapedChar? (c : Char) : Option Nat :=
  if c = 'a' then some 7
  else if c = 't' then some 9
  else if c = 'n' then some 10
  else if c = 'v' then some 11
  else if c = 'f' then some 12
  else if c = 'r' then some 13
  else none

/-- An escape, from its backslash on. -/
def escape : Read Atom := do
  let start := (← get).rest
  advance
  match ← peek? with
  | none => fail
  | some c =>
    if isDigit c then throw .beyond
    else if c = 'x' then hexEscape 2
    else if c = 'u' then hexEscape 4
    else if c = 'U' then hexEscape 8
    else if c = 'p' || c = 'P' then propertyEscape
    else
      advance
      if ['d', 's', 'w', 'D', 'S', 'W'].contains c then pure .characters
      else if c = 'b' then
        wordMark
        pure .place
      else if ['B', 'A', 'z', '<', '>'].contains c then pure .place
      else if c = 'c' then
        if (← peek?).any isLetter then throw (.control start) else fail
      else
        match escapedChar? c with
        | some n => pure (.char n)
        | none => if c.toNat < 0x80 && !isLetter c then pure (.char c.toNat) else fail

def classNames : List String :=
  ["alnum", "alpha", "ascii", "blank", "cntrl", "digit", "graph", "lower", "print", "punct", "space",
    "upper", "word", "xdigit"]

/-- What follows a class such as `[:alpha:]`, which comes without its first bracket. -/
def afterNamedClass? (chars : List Char) : Option (List Char) :=
  match chars with
  | ':' :: rest =>
    let rest := match rest with
      | '^' :: rest => rest
      | _ => rest
    match rest.dropWhile (· != ':') with
    | ':' :: ']' :: after =>
      if classNames.contains (String.ofList (rest.takeWhile (· != ':'))) then some after else none
    | _ => none
  | _ => none

def leadingHyphens : Nat → Nat → Read Nat
  | 0, count => pure count
  | fuel + 1, count => do
    if (← peek?) = some '-' then
      match ← next? with
      | none => fail
      | some _ => leadingHyphens fuel (count + 1)
    else pure count

/-- The opening bracket and what counts only at the start: a caret, hyphens, a closing bracket. The
result is how many members have been read. -/
def openClass : Read Nat := do
  match ← next? with
  | none => fail
  | some c =>
    if c = '^' then
      addRoom 1000
      if (← next?).isNone then fail
    let hyphens ← leadingHyphens (← get).rest.length 0
    if hyphens = 0 && (← peek?) = some ']' then
      if (← next?).isNone then fail
      pure 1
    else pure hyphens

def classAtom : Read Atom := do
  match ← peek? with
  | none => fail
  | some c =>
    if c = '\\' then escape
    else
      advance
      addRoom (if c.toNat < 0x80 then 8 else 130)
      pure (.char c.toNat)

/-- One member of a class: a character, a class by name, or a range of characters. -/
def classMember : Read Unit := do
  let low ← classAtom
  skip
  match ← peek? with
  | none => fail
  | some c =>
    let after ← peekNext?
    if c != '-' || after = some ']' || after = some '-' then
      if low = .place then fail
    else if (← next?).isNone then fail
    else
      let high ← classAtom
      match low, high with
      | .char l, .char h => if h < l then fail
      | _, _ => fail

/-- How deep the members of a class lie, of which the deepest has depth `deepest`. -/
def unionDepth (count deepest : Nat) : Nat := if 1 < count then deepest + 1 else deepest

/-- The depth of what stands on both sides of an operator, or on the one side there is. -/
def besideDepth (left : Option Nat) (right : Nat) : Nat :=
  match left with
  | some l => max l right + 1
  | none => right

/-- The members of a class up to its closing bracket. `left` is what an operator comes after. The
result is the depth of the class. -/
def classMembers : Nat → Option Nat → Nat → Nat → Read Nat
  | 0, _, _, _ => fail
  | fuel + 1, left, count, deepest => do
    skip
    match (← get).rest with
    | [] => fail
    | ']' :: _ =>
      advance
      pure (besideDepth left (unionDepth count deepest) + 1)
    | '[' :: rest =>
      match afterNamedClass? rest with
      | some after =>
        addRoom 32
        modify fun s => { s with rest := after }
        classMembers fuel left (count + 1) deepest
      | none =>
        let members ← openClass
        let inner ← classMembers fuel none members 0
        classMembers fuel left (count + 1) (max deepest inner)
    | '&' :: '&' :: rest | '-' :: '-' :: rest | '~' :: '~' :: rest =>
      modify fun s => { s with rest := rest }
      classMembers fuel (some (besideDepth left (unionDepth count deepest))) 0 0
    | _ =>
      classMember
      classMembers fuel left (count + 1) deepest

/-- A class from its opening bracket on. -/
def bracketClass : Read Nat := do
  let fuel := (← get).rest.length
  let members ← openClass
  classMembers fuel none members 0

/-- The digits of a bound. The number has to fit 32 bits. -/
def boundDigits : Nat → Option Nat → Read Nat
  | 0, _ => fail
  | fuel + 1, value => do
    match ← peek? with
    | none => fail
    | some c =>
      if isDigit c then
        let value := value.getD 0 * 10 + (c.toNat - 48)
        if value < 0x100000000 then
          advance
          skip
          boundDigits fuel (some value)
        else fail
      else
        match value with
        | some value => pure value
        | none => fail

def dropSpaces : Read Unit := modify fun s => { s with rest := s.rest.dropWhile Text.isBlank }

/-- A bound, which may have blanks around it. -/
def bound : Read Nat := do
  dropSpaces
  let value ← boundDigits ((← get).rest.length + 1) none
  dropSpaces
  skip
  pure value

/-- What follows a bound: another one, or none. -/
def upperBound (low : Nat) : Read Nat := do
  if (← peek?) = some ',' then
    match ← next? with
    | none => fail
    | some c => if c = '\x7d' then pure low else bound
  else pure low

def lazyMark : Read Unit := do
  if (← peek?) = some '?' then advance

/-- The bounds of a repetition, from the opening brace on. -/
def bounds : Read Unit := do
  if (← next?).isNone then fail
  let low ← bound
  let high ← upperBound low
  if (← peek?) = some '\x7d' then
    advance
    skip
    lazyMark
    if high < low then fail
  else fail

/-- What the head of a group says: no more than flags, or the start of a group. -/
inductive Head where
  | flags (spaced : Bool)
  | group (spaced : Bool)

def isNameStart (c : Char) : Bool := c = '_' || Text.isAlphabetic c

def isNameChar (c : Char) : Bool :=
  c = '_' || c = '.' || c = '[' || c = ']' || Text.isAlphanumeric c

/-- The name of a group, which no other group has. -/
def groupName : Read Unit := do
  let s ← get
  let name := s.rest.takeWhile (· != '>')
  match name, s.rest.dropWhile (· != '>') with
  | first :: others, _ :: rest =>
    if isNameStart first && others.all isNameChar && !s.names.contains name then
      set { s with rest := rest, names := name :: s.names }
    else fail
  | _, _ => fail

def isFlag (c : Char) : Bool := ['i', 'm', 's', 'U', 'u', 'R', 'x', '-'].contains c

/-- Whether flags switch `x` on or off, if they do either. -/
def spacing? (on : Bool) : List Char → Option Bool
  | [] => none
  | c :: rest =>
    if c = '-' then spacing? false rest
    else if c = 'x' then some on
    else spacing? on rest

def areDistinct : List Char → Bool
  | [] => true
  | c :: rest => !rest.contains c && areDistinct rest

/-- Flags, each at most once, up to a colon or a closing parenthesis. -/
def flags : Read Head := do
  let s ← get
  let ending (c : Char) : Bool := c = ':' || c = ')'
  let found := s.rest.takeWhile (!ending ·)
  if !found.all isFlag || !areDistinct found || found.getLast? = some '-' then fail
  let spaced := (spacing? true found).getD s.spaced
  match s.rest.dropWhile (!ending ·) with
  | ':' :: rest =>
    set { s with rest := rest }
    pure (.group spaced)
  | ')' :: rest =>
    if found.isEmpty then fail
    set { s with rest := rest }
    pure (.flags spaced)
  | _ => fail

/-- The head of a group, from its parenthesis on. -/
def groupHead : Read Head := do
  advance
  skip
  let s ← get
  match s.rest with
  | '?' :: '=' :: _ | '?' :: '!' :: _ | '?' :: '<' :: '=' :: _ | '?' :: '<' :: '!' :: _ =>
    throw .beyond
  | '?' :: 'P' :: '<' :: rest | '?' :: '<' :: rest =>
    set { s with rest := rest }
    groupName
    pure (.group s.spaced)
  | '?' :: rest =>
    set { s with rest := rest }
    flags
  | _ => pure (.group s.spaced)

/-- A part of a pattern. -/
structure Part where
  depth : Nat
  repeatable : Bool

/-- The depth of parts one after another, given from the last to the first. -/
def sequenceDepth (parts : List Part) : Nat :=
  unionDepth parts.length (parts.foldl (fun deepest p => max deepest p.depth) 0)

def choiceDepth (depths : List Nat) : Nat := unionDepth depths.length (depths.foldl max 0)

/-- The parts with the last of them repeated. -/
def repeatLast (parts : List Part) : Read (List Part) :=
  match parts with
  | last :: before => if last.repeatable then pure (⟨last.depth + 1, true⟩ :: before) else fail
  | [] => fail

/-- Reads up to the end of the pattern or of the group. `parts` are those since the last bar, `choices`
the depths of what stands between the bars before. The result is the depth of it all. -/
def choice : Nat → List Part → List Nat → Read Nat
  | 0, _, _ => fail
  | fuel + 1, parts, choices => do
    skip
    match ← peek? with
    | none | some ')' => pure (choiceDepth (sequenceDepth parts :: choices))
    | some '|' =>
      advance
      choice fuel [] (sequenceDepth parts :: choices)
    | some '(' =>
      let outer := (← get).spaced
      match ← groupHead with
      | .flags spaced =>
        modify fun s => { s with spaced := spaced }
        choice fuel (⟨0, false⟩ :: parts) choices
      | .group spaced =>
        modify fun s => { s with spaced := spaced }
        let inner ← choice fuel [] []
        if (← peek?) = some ')' then
          advance
          modify fun s => { s with spaced := outer }
          choice fuel (⟨inner + 1, true⟩ :: parts) choices
        else fail
    | some '[' =>
      let depth ← bracketClass
      choice fuel (⟨depth, true⟩ :: parts) choices
    | some '\x7b' =>
      let parts ← repeatLast parts
      bounds
      choice fuel parts choices
    | some '\\' =>
      let _ ← escape
      choice fuel (⟨0, true⟩ :: parts) choices
    | some c =>
      if c = '*' || c = '+' || c = '?' then
        let parts ← repeatLast parts
        advance
        lazyMark
        choice fuel parts choices
      else
        advance
        choice fuel (⟨0, true⟩ :: parts) choices

/-- Parts lie in one another at most this deep. -/
def depthLimit : Nat := 250

def readAll (chars : List Char) : Except Fault Unit := do
  let (depth, s) ← choice (chars.length + 1) [] [] ⟨chars, false, [], false, 0⟩
  if s.rest.isEmpty && depth ≤ depthLimit then pure () else throw .malformed

/-- The room of a class that is known in all its parts, from its opening bracket to its closing one. -/
def classRoom? (chars : List Char) : Option Nat :=
  match bracketClass ⟨chars, false, [], true, 64⟩ with
  | .ok (_, s) => if s.rest.isEmpty then some s.room else none
  | .error _ => none

/-- The room of a class by the name of a property, from its backslash on. -/
def escapeRoom? (chars : List Char) : Option Nat :=
  match escape ⟨chars, false, [], true, 0⟩ with
  | .ok (_, s) => if s.rest.isEmpty then some s.room else none
  | .error _ => none

/-- A pattern in its plain form, in which control characters stand for themselves, and whether it goes
beyond this grammar. How such a pattern ends is not looked at. -/
def plainForm? : Nat → List Char → Option (List Char × Bool)
  | 0, _ => none
  | fuel + 1, chars =>
    match readAll chars with
    | .ok () => some (chars, false)
    | .error .beyond => some (chars, true)
    | .error .malformed => none
    | .error (.control rest) =>
      match rest with
      | _ :: _ :: letter :: after =>
        plainForm? fuel
          (chars.take (chars.length - rest.length) ++ Char.ofNat (letter.toNat % 32) :: after)
      | _ => none

end SeriesClient.Schema.Pattern
