import SeriesClient.Decimal

/-! JSON documents. A document keeps the members of an object as they were written; `normalize` puts
them into order by name, the last of several with one name winning, and two documents that mean the
same thing have the same normal form. -/

namespace SeriesClient
namespace Json

/-- The integers that are kept exactly: those of a signed or an unsigned 64-bit word. -/
def Fits (n : Int) : Prop := -0x8000000000000000 ≤ n ∧ n < 0x10000000000000000

instance (n : Int) : Decidable (Fits n) := inferInstanceAs (Decidable (_ ∧ _))

inductive Number where
  | integer (value : Int) (fits : Fits value)
  | real (value : Float) (finite : value.isFinite = true)
  deriving DecidableEq

end Json

inductive Json where
  | null
  | bool (value : Bool)
  | number (value : Json.Number)
  | string (value : String)
  | array (items : List Json)
  | object (members : List (String × Json))
  deriving BEq

namespace Json

instance : Inhabited Json := ⟨null⟩

abbrev Members := List (String × Json)

/-- A number that is not finite has no JSON form and becomes `null`. -/
def ofFloat (x : Float) : Json :=
  if h : x.isFinite = true then number (.real x h) else null

/-- An integer outside the 64-bit words is kept as its nearest floating-point number. -/
def ofInt (n : Int) : Json :=
  if h : Fits n then number (.integer n h) else ofFloat (Float.ofInt n)

def ofNat (n : Nat) : Json := ofInt n

namespace Number

def toFloat : Number → Float
  | integer n _ => Float.ofInt n
  | real x _ => x

end Number

/-- Adds a member to members in rising order of names, in place of one of the same name. -/
def put (name : String) (value : Json) : Members → Members
  | [] => [(name, value)]
  | (n, v) :: rest =>
    if name < n then (name, value) :: (n, v) :: rest
    else if name = n then (name, value) :: rest
    else (n, v) :: put name value rest

def sortMembers (members : Members) : Members :=
  members.foldl (fun sorted m => put m.1 m.2 sorted) []

mutual

def normalize : Json → Json
  | array items => array (normalizeItems items)
  | object members => object (sortMembers (normalizeMembers members))
  | null => null
  | bool b => bool b
  | number n => number n
  | string s => string s

def normalizeItems : List Json → List Json
  | [] => []
  | item :: rest => normalize item :: normalizeItems rest

def normalizeMembers : Members → Members
  | [] => []
  | (name, value) :: rest => (name, normalize value) :: normalizeMembers rest

end

def lookup (name : String) : Members → Option Json
  | [] => none
  | (n, v) :: rest => if n = name then some v else lookup name rest

def isObject : Json → Bool
  | object _ => true
  | _ => false

def string? : Json → Option String
  | string s => some s
  | _ => none

def bool? : Json → Option Bool
  | bool b => some b
  | _ => none

end Json
end SeriesClient
