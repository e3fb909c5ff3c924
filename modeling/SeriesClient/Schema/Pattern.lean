import SeriesClient.Schema.Pattern.TermReader

/-! Which texts are regular expressions, and which of them can be put to use. Nothing is matched. -/

namespace SeriesClient.Schema.Pattern

def plain? (pattern : String) : Option (List Char × Bool) :=
  let chars := pattern.toList
  plainForm? (chars.length + 1) chars

/-- Whether a text reads as a regular expression, as far as the plain grammar can tell: what goes beyond
it is taken on trust. -/
def isValid (pattern : String) : Bool := (plain? pattern).isSome

/-- Whether there is something that a regular expression matches by. -/
def isUsable (pattern : String) : Bool :=
  match plain? pattern with
  | none => false
  | some (chars, beyond) =>
    match TermReader.ofPattern? beyond chars with
    | none => false
    | some (term, referred) => Term.isMatchable referred (Term.shape referred term).looking term

end SeriesClient.Schema.Pattern
