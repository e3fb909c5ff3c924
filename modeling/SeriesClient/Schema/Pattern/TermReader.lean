import SeriesClient.Schema.Pattern.Syntax
import SeriesClient.Schema.Pattern.Term

/-! Reading patterns that may look around and back. What the plain grammar refuses may be read here, and
the other way round; the classes are those of the plain grammar. -/

namespace SeriesClient.Schema.Pattern.TermReader

structure Scan where
  rest : List Char
  spaced : Bool
  names : List (List Char × Nat)
  /-- A group has been referred to by its number after a backslash. -/
  numbered : Bool
  /-- How many groups have been opened. -/
  groups : Nat
  /-- The groups that are referred to. -/
  referred : List Nat
  /-- Numbers of groups stay below this. -/
  numberLimit : Nat
  /-- The classes of digits, blanks and word characters hold those of all scripts. -/
  wide : Bool

abbrev Read := StateT Scan Option

def fail {α : Type} : Read α := fun _ => none

def peek? : Read (Option Char) := return (← get).rest.head?

def drop (n : Nat) : Read Unit := modify fun s => { s with rest := s.rest.drop n }

/-- What follows a comment, of which the opening is left out. -/
def afterComment? : List Char → Option (List Char)
  | [] => none
  | ')' :: rest => some rest
  | '\\' :: _ :: rest => afterComment? rest
  | _ :: rest => afterComment? rest

/-- Leaves out what may stand between parts: comments in parentheses always, blanks and the rest of a
line after a number sign where they do not count. -/
def dropBlanks? (spaced : Bool) : Nat → List Char → Option (List Char)
  | 0, chars => some chars
  | fuel + 1, chars =>
    match chars with
    | '(' :: '?' :: '#' :: rest => (afterComment? rest).bind (dropBlanks? spaced fuel)
    | c :: rest =>
      if spaced && c = '#' then dropBlanks? spaced fuel ((rest.dropWhile (· != '\n')).drop 1)
      else if spaced && (c = ' ' || c = '\r' || c = '\n' || c = '\t') then
        dropBlanks? spaced fuel rest
      else some chars
    | [] => some []

def skipFrom? (spaced : Bool) (chars : List Char) : Option (List Char) :=
  dropBlanks? spaced (chars.length + 1) chars

def skip : Read Unit := fun s =>
  (skipFrom? s.spaced s.rest).map fun rest => ((), { s with rest := rest })

/-- A number that fits a machine word, and what follows it. -/
def number? (chars : List Char) : Option (Nat × List Char) :=
  let digits := chars.takeWhile isDigit
  let value := digits.foldl (fun n d => n * 10 + (d.toNat - 48)) 0
  if digits.isEmpty || 0x10000000000000000 ≤ value then none
  else some (value, chars.drop digits.length)

/-- The bounds of a repetition, after the opening brace, and what follows the closing one. Braces
around anything else stand for themselves. -/
def bounds? (spaced : Bool) (chars : List Char) : Option ((Nat × Option Nat) × List Char) := do
  let chars ← skipFrom? spaced chars
  let (low, chars) ← if chars.head? = some ',' then some (0, chars) else number? chars
  let chars ← skipFrom? spaced chars
  let (high, chars) ← match chars with
    | '\x7d' :: _ => some (some low, chars)
    | ',' :: rest => do
      let rest ← skipFrom? spaced rest
      match number? rest with
      | some (high, rest) => some (some high, rest)
      | none => some (none, rest)
    | _ => none
  match ← skipFrom? spaced chars with
  | '\x7d' :: rest => some ((low, high), rest)
  | _ => none

def isNameChar (c : Char) : Bool := c = '_' || Text.isAlphanumeric c

/-- A name up to a closing sign. -/
def name? (close : Char) (chars : List Char) : Option (List Char × List Char) :=
  let name := chars.takeWhile isNameChar
  match chars.drop name.length with
  | c :: rest => if c = close && !name.isEmpty then some (name, rest) else none
  | [] => none

/-- A name and a signed distance from it up to a closing sign; the name may be left out. -/
def distance? (close : Char) (chars : List Char) : Option (List Char × Int × List Char) :=
  let name := chars.takeWhile isNameChar
  match chars.drop name.length with
  | sign :: rest =>
    if sign = '+' || sign = '-' then
      match number? rest with
      | some (n, c :: rest) =>
        if c = close && !(n = 0 && name.isEmpty) then
          some (name, if sign = '-' then -(n : Int) else n, rest)
        else none
      | _ => none
    else none
  | [] => none

/-- The number of a group by its name or by its number. -/
def groupNamed? (s : Scan) (name : List Char) : Option Nat :=
  match s.names.find? (·.1 == name) with
  | some (_, number) => some number
  | none => if !name.isEmpty && name.all isDigit then (number? name).map (·.1) else none

/-- The number of the group that lies so far back or ahead, counted from the last one opened. -/
def groupAt? (s : Scan) (distance : Int) : Option Nat :=
  let number := (s.groups : Int) + (if distance < 0 then distance + 1 else distance)
  if number < 0 then none else some number.toNat

/-- A reference to a group that has been opened before. -/
def referTo (number : Option Nat) : Read Term := do
  let s ← get
  match number with
  | some n =>
    if 0 < n && n ≤ s.groups then
      set { s with referred := n :: s.referred }
      pure .again
    else fail
  | none => fail

/-- A reference to a group by name, after the opening sign. -/
def namedReference (close : Char) (distances : Bool) : Read Term := do
  let s ← get
  match name? close s.rest with
  | some (name, rest) =>
    set { s with rest := rest }
    referTo (groupNamed? s name)
  | none =>
    if distances then
      match distance? close s.rest with
      | some (name, distance, rest) =>
        set { s with rest := rest }
        referTo (if name.isEmpty then groupAt? s distance else groupNamed? s name)
      | none => fail
    else fail

/-- A reference to a group by number. -/
def numberedReference : Read Term := do
  let s ← get
  match number? s.rest with
  | some (n, rest) =>
    if n < s.numberLimit then
      set { s with rest := rest, numbered := true }
      referTo (some n)
    else fail
  | none => fail

/-- A character by its number, after the letter of the escape. -/
def hex? (digits : Nat) (chars : List Char) : Option (Char × List Char) :=
  let value (found : List Char) : Nat :=
    found.foldl (fun n d => n * 16 + (hexValue? d).getD 0) 0
  let isHex (c : Char) : Bool := (hexValue? c).isSome
  let found := chars.take digits
  if found.length = digits && found.all isHex then
    if isScalar (value found) then some (Char.ofNat (value found), chars.drop digits) else none
  else
    match chars with
    | '\x7b' :: rest =>
      let found := rest.takeWhile isHex
      match rest.drop found.length with
      | '\x7d' :: after =>
        if !found.isEmpty && found.length ≤ 8 && isScalar (value found) then
          some (Char.ofNat (value found), after)
        else none
      | _ => none
    | _ => none

/-- The name of a property with its braces, after the letter of the escape. -/
def property? (chars : List Char) : Option (List Char × List Char) :=
  match chars with
  | '\x7b' :: rest =>
    let name := rest.takeWhile (· != '\x7d')
    match rest.drop name.length with
    | close :: after => some ('\x7b' :: name ++ [close], after)
    | [] => none
  | c :: rest => some ([c], rest)
  | [] => none

inductive Escaped where
  | char (c : Char)
  /-- A class, as it is written in the plain grammar. -/
  | characters (text : List Char)

/-- An escape for a character or a class of them, after its backslash. -/
def escaped? (inClass : Bool) (chars : List Char) : Option (Escaped × List Char) :=
  match chars with
  | [] => none
  | c :: rest =>
    if isDigit c then none
    else if ['d', 'D', 's', 'S', 'w', 'W'].contains c then some (.characters ['\\', c], rest)
    else if c = 'h' then some (.characters "[0-9A-Fa-f]".toList, rest)
    else if c = 'H' then some (.characters "[^0-9A-Fa-f]".toList, rest)
    else if c = 'x' then (hex? 2 rest).map fun (c, rest) => (.char c, rest)
    else if c = 'u' then (hex? 4 rest).map fun (c, rest) => (.char c, rest)
    else if c = 'U' then (hex? 8 rest).map fun (c, rest) => (.char c, rest)
    else if c = 'p' || c = 'P' then
      (property? rest).map fun (name, rest) => (.characters ('\\' :: c :: name), rest)
    else if c = 'e' then some (.char '\x1b', rest)
    else
      match escapedChar? c with
      | some n => some (.char (Char.ofNat n), rest)
      | none =>
        if inClass && c = 'b' then some (.char '\x08', rest)
        else if isLetter c && !(inClass && ['k', 'A', 'z', 'B', 'K', 'G'].contains c) then none
        else some (.char c, rest)

def charTerm (c : Char) : Term := .char c.utf8Size

/-- The room of the classes of digits, blanks and word characters. -/
def shorthandRoom (wide : Bool) (letter : Char) : Nat :=
  let low := letter.toLower
  if low = 'd' then if wide then 5184 else 72
  else if low = 's' then if wide then 680 else 440
  else if wide then 50316 else 96

/-- The room of a class as it is written in the plain grammar, if it can be read there. -/
def charactersRoom? (wide : Bool) (text : List Char) : Option Nat :=
  match text with
  | '\\' :: letter :: rest =>
    if rest.isEmpty then some (shorthandRoom wide letter) else escapeRoom? text
  | _ => classRoom? text

/-- An escape outside of a class, after its backslash. -/
def escape : Read Term := do
  let s ← get
  match s.rest with
  | [] => fail
  | c :: rest =>
    if isDigit c then numberedReference
    else if c = 'k' then
      match rest with
      | '\'' :: rest =>
        set { s with rest := rest }
        namedReference '\'' true
      | '<' :: rest =>
        set { s with rest := rest }
        namedReference '>' true
      | _ => fail
    else if c = 'A' || c = 'z' then
      drop 1
      pure (.place false)
    else if c = 'Z' then
      drop 1
      pure (.look false .empty)
    else if c = 'b' || c = 'B' then
      if rest.head? = some '\x7b' then fail
      drop 1
      pure (.place true)
    else if c = '<' || c = '>' then
      drop 1
      pure (.place true)
    else if c = 'K' || c = 'G' then
      drop 1
      pure .mark
    else
      match escaped? false s.rest with
      | some (.char c, rest) =>
        set { s with rest := rest }
        pure (charTerm c)
      | some (.characters text, rest) =>
        match charactersRoom? s.wide text with
        | some room =>
          set { s with rest := rest }
          pure (.characters room)
        | none => fail
      | none => fail

def isMeta (c : Char) : Bool :=
  ['\\', '.', '+', '*', '?', '(', ')', '|', '[', ']', '\x7b', '\x7d', '^', '$', '#', '&', '-',
    '~'].contains c

def plainChar (c : Char) : List Char := if isMeta c then ['\\', c] else [c]

/-- The members of a class in the plain grammar, last one first, up to the bracket that closes the
outermost of `opened` classes. -/
def plainMembers : Nat → Nat → List Char → List Char → Option (List Char × List Char)
  | 0, _, _, _ => none
  | fuel + 1, opened, found, chars =>
    match chars with
    | [] => none
    | '\\' :: rest =>
      match escaped? true rest with
      | some (.char c, rest) => plainMembers fuel opened ((plainChar c).reverse ++ found) rest
      | some (.characters text, rest) => plainMembers fuel opened (text.reverse ++ found) rest
      | none => none
    | '[' :: rest => plainMembers fuel (opened + 1) ('[' :: found) rest
    | ']' :: rest =>
      if opened ≤ 1 then some (']' :: found, rest)
      else plainMembers fuel (opened - 1) (']' :: found) rest
    | c :: rest => plainMembers fuel opened (c :: found) rest

/-- A class in the plain grammar, after its opening bracket, and what follows it. A closing bracket in
the first place stands for itself. -/
def plainClass? (chars : List Char) : Option (List Char × List Char) :=
  let (found, rest) := match chars with
    | '^' :: ']' :: rest => ([']', '^', '['], rest)
    | '^' :: rest => (['^', '['], rest)
    | ']' :: rest => ([']', '['], rest)
    | _ => (['['], chars)
  (plainMembers (rest.length + 1) 1 found rest).map fun (found, rest) => (found.reverse, rest)

def bracketClass : Read Term := do
  let s ← get
  match plainClass? (s.rest.drop 1) with
  | some (text, rest) =>
    match classRoom? text with
    | some room =>
      set { s with rest := rest }
      pure (.characters room)
    | none => fail
  | none => fail

def isRepeatable : Term → Bool
  | .look _ _ | .empty | .place _ => false
  | _ => true

def isEmptyTerm : Term → Bool
  | .empty => true
  | _ => false

def ofSequence (terms : List Term) : Term :=
  match terms.filter (!isEmptyTerm ·) with
  | [] => .empty
  | [term] => term
  | terms => .sequence terms

def closeGroup : Read Unit := do
  skip
  if (← peek?) = some ')' then drop 1 else fail

/-- The repetition after a part, if one follows. -/
def repetition? (s : Scan) : Option ((Nat × Option Nat) × List Char) :=
  match s.rest with
  | '?' :: rest => some ((0, some 1), rest)
  | '*' :: rest => some ((0, none), rest)
  | '+' :: rest => some ((1, none), rest)
  | '\x7b' :: rest => bounds? s.spaced rest
  | _ => none

/-- A part with the repetition that follows it. A question mark after it makes it a short one, and a
plus sign after that keeps what it has matched. -/
def repetition (term : Term) : Read Term := do
  skip
  let s ← get
  match repetition? s with
  | none => pure term
  | some ((least, most), rest) =>
    if !isRepeatable term then fail
    set { s with rest := rest }
    skip
    if (← peek?) = some '?' then drop 1
    let term := Term.repeated term least most
    if (← peek?) = some '+' then
      drop 1
      pure (.atomic term)
    else pure term

/-- What flags do: they change how the rest is read, or how a group is read that begins here. -/
def flags : Nat → Bool → Char → Bool → Read Bool
  | 0, _, _, _ => fail
  | fuel + 1, begun, previous, off => do
    let before := (← get).rest.length
    skip
    let s ← get
    let previous := if s.rest.length < before then ' ' else previous
    match s.rest with
    | [] => fail
    | c :: rest =>
      if c = 'x' then
        set { s with rest := rest, spaced := !off }
        flags fuel true c off
      else if c = 'i' || c = 'm' || c = 's' || c = 'U' || (c = 'u' && !off) then
        set { s with rest := rest }
        flags fuel true c off
      else if c = '-' && !off then
        set { s with rest := rest }
        flags fuel true c true
      else if c = ')' then
        if (!begun && s.rest.length = before) || (off && previous = '-') then fail
        set { s with rest := rest }
        pure false
      else if c = ':' then
        if off && previous = '-' then fail
        set { s with rest := rest }
        pure true
      else fail

/-- Groups lie in one another less deep than this. -/
def groupLimit : Nat := 64

def openGroup (name : Option (List Char)) (rest : List Char) : Read Nat := do
  let s ← get
  let number := s.groups + 1
  set { s with
    rest := rest
    groups := number
    names := match name with
      | some name => (name, number) :: s.names
      | none => s.names }
  pure number

/-- A condition on a group is whether it has matched, which takes no characters. -/
def conditionOf : Term → Term
  | .again => .mark
  | term => term

def isReference : Term → Bool
  | .again => true
  | _ => false

def conditionalOf (condition branches : Term) : Term :=
  let (yes, no) := match branches with
    | .choice (yes :: no :: []) => (yes, no)
    | .choice (yes :: no) => (yes, .choice no)
    | term => (term, .empty)
  if isEmptyTerm yes && isEmptyTerm no then conditionOf condition
  else .conditional (conditionOf condition) yes no

mutual

/-- Reads up to a closing parenthesis or the end. -/
def choice : Nat → Nat → Read Term
  | 0, _ => fail
  | fuel + 1, depth => do
    let first ← sequence fuel depth []
    skip
    if (← peek?) = some '|' then
      let others ← choices fuel depth []
      pure (.choice (first :: others))
    else
      let s ← get
      if s.numbered && !s.names.isEmpty then fail
      pure first

def choices : Nat → Nat → List Term → Read (List Term)
  | 0, _, _ => fail
  | fuel + 1, depth, found => do
    if (← peek?) = some '|' then
      drop 1
      let next ← sequence fuel depth []
      skip
      choices fuel depth (next :: found)
    else pure found.reverse

def sequence : Nat → Nat → List Term → Read Term
  | 0, _, _ => fail
  | fuel + 1, depth, found => do
    let before := (← get).rest.length
    if before = 0 then pure (ofSequence found.reverse)
    else
      let part ← atom fuel depth
      let part ← repetition part
      if (← get).rest.length = before then pure (ofSequence found.reverse)
      else sequence fuel depth (part :: found)

def atom : Nat → Nat → Read Term
  | 0, _ => fail
  | fuel + 1, depth => do
    skip
    match ← peek? with
    | none | some '+' | some '*' | some '?' | some '|' | some ')' => pure .empty
    | some '.' =>
      drop 1
      pure .any
    | some '^' | some '$' =>
      drop 1
      pure (.place false)
    | some '(' =>
      drop 1
      group fuel (depth + 1)
    | some '\\' =>
      drop 1
      escape
    | some '[' => bracketClass
    | some c =>
      drop 1
      pure (charTerm c)

/-- A group after its opening parenthesis. -/
def group : Nat → Nat → Read Term
  | 0, _ => fail
  | fuel + 1, depth => do
    if groupLimit ≤ depth then fail
    skip
    let s ← get
    match s.rest with
    | '?' :: '=' :: rest | '?' :: '!' :: rest =>
      set { s with rest := rest }
      let inner ← choice fuel depth
      closeGroup
      pure (.look false inner)
    | '?' :: '<' :: '=' :: rest | '?' :: '<' :: '!' :: rest =>
      set { s with rest := rest }
      let inner ← choice fuel depth
      closeGroup
      pure (.look true inner)
    | '?' :: 'P' :: '<' :: rest | '?' :: '<' :: rest =>
      match name? '>' rest with
      | some (name, rest) =>
        let number ← openGroup (some name) rest
        let inner ← choice fuel depth
        closeGroup
        pure (.group number inner)
      | none => fail
    | '?' :: 'P' :: '=' :: rest =>
      set { s with rest := rest }
      namedReference ')' false
    | '?' :: '>' :: rest =>
      set { s with rest := rest }
      let inner ← choice fuel depth
      closeGroup
      pure (.atomic inner)
    | '?' :: '(' :: rest =>
      set { s with rest := rest }
      conditional fuel depth
    | '?' :: rest =>
      set { s with rest := rest }
      if ← flags (rest.length + 1) false ' ' false then
        let inner ← choice fuel depth
        if (← peek?) = some ')' then
          drop 1
          modify fun after => { after with spaced := s.spaced }
          pure inner
        else fail
      else pure .empty
    | rest =>
      let number ← openGroup none rest
      let inner ← choice fuel depth
      closeGroup
      pure (.group number inner)

/-- A conditional after its second parenthesis. -/
def conditional : Nat → Nat → Read Term
  | 0, _ => fail
  | fuel + 1, depth => do
    let s ← get
    let condition ← match s.rest with
      | [] => fail
      | c :: rest =>
        if isDigit c then numberedReference
        else if c = '\'' then do
          set { s with rest := rest }
          namedReference '\'' true
        else if c = '<' then do
          set { s with rest := rest }
          namedReference '>' true
        else choice fuel depth
    closeGroup
    let before := (← get).rest.length
    let branches ← choice fuel depth
    let unread := (← get).rest.length = before
    closeGroup
    if unread then
      if isReference condition then pure .mark else fail
    else pure (conditionalOf condition branches)

end

/-- A whole pattern, and the groups that it refers to. -/
def ofPattern? (wide : Bool) (chars : List Char) : Option (Term × List Nat) :=
  let bytes := chars.foldl (fun n c => n + c.utf8Size) 0
  match choice (8 * (chars.length + 1)) 0 ⟨chars, false, [], false, 0, [], bytes / 2, wide⟩ with
  | some (term, s) => if s.rest.isEmpty then some (term, s.referred) else none
  | none => none

end SeriesClient.Schema.Pattern.TermReader
