import SeriesClient.Url.Domain.Direction
import SeriesClient.Url.Domain.Joiner
import SeriesClient.Url.Domain.Letter
import SeriesClient.Url.Percent
import SeriesClient.Url.Punycode
import SeriesClient.Text.Utf8

/-! Domain names in the form in which they are looked up: letters that stand for others replaced, and
labels with letters outside ASCII in Punycode. -/

namespace SeriesClient.Url.Domain

/-- A label in the letters it is read in, which may be outside ASCII. -/
def isValidLabel (label : List Char) : Bool :=
  !label.any isForbidden && !label.head?.any Text.isMark && joinersFit [] label

def punycodeMark : List Char := ['x', 'n', '-', '-']

/-- The most characters that a label in Punycode has after its `xn--`. -/
def longestCode : Nat := 2000

/-- The most characters of a label that is put into Punycode. -/
def longestEncoded : Nat := 1000

/-- Whether every character of a label stands for itself, in the order and composition of a mapped
name. -/
def isMapped (label : List Char) : Bool :=
  label.all (fun c => letters? c == some [c]) && Text.Normal.form label == label

/-- The label that Punycode stands for. Only a label that needs the form may have it, and only in the
spelling it would be given. -/
def decodeLabel? (code : List Char) : Option (List Char) :=
  if longestCode < code.length then none
  else match Punycode.decode? code with
    | none => none
    | some label =>
      if !label.all isAscii && isMapped label && Punycode.encode label == code then some label
      else none

def readLabel? (label : List Char) : Option (List Char) :=
  if punycodeMark.isPrefixOf label then
    (decodeLabel? (label.drop 4)).filter isValidLabel
  else if isValidLabel label && (label.all isAscii || label.length ≤ longestEncoded) then some label
  else none

def labelToAscii (label : List Char) : List Char :=
  if label.all isAscii then label else punycodeMark ++ Punycode.encode label

def splitLabels : List Char → List (List Char)
  | [] => [[]]
  | c :: rest =>
    if c = '.' then [] :: splitLabels rest
    else match splitLabels rest with
      | [] => [[c]]
      | label :: labels => (c :: label) :: labels

def joinLabels (labels : List (List Char)) : List Char := ['.'].intercalate labels

/-- The labels of a name each have one direction, if one of its characters makes that matter. -/
def directionsFit (labels : List (List Char)) : Bool :=
  !labels.any (·.any (Direction.of · |>.turns)) || labels.all hasOneDirection

def mapped? (name : List Char) : Option (List Char) :=
  (name.mapM letters?).map fun letters => Text.Normal.form letters.flatten

/-- The name that is looked up for a name as written, or none if there is no such name. -/
def toAscii? (name : List Char) : Option (List Char) := do
  let mapped ← mapped? name
  let labels ← (splitLabels mapped).mapM readLabel?
  if directionsFit labels then some (joinLabels (labels.map labelToAscii)) else none

end SeriesClient.Url.Domain
