/-! Sets of characters given by ranges of code points. A long table is written as a text: hexadecimal
numbers or ranges of them, apart by blanks, in rising order. -/

namespace SeriesClient.Text

/-- Ranges in rising order, both ends included. -/
abbrev Ranges := Array (Nat × Nat)

namespace Ranges

/-- Looks for `n` among the ranges from `low` up to `high`, at most `fuel` of them by halving. -/
def search (ranges : Ranges) (n : Nat) : Nat → Nat → Nat → Bool
  | 0, _, _ => false
  | fuel + 1, low, high =>
    if low < high then
      let middle := (low + high) / 2
      match ranges[middle]? with
      | none => false
      | some (first, last) =>
        if n < first then search ranges n fuel low middle
        else if last < n then search ranges n fuel (middle + 1) high
        else true
    else false

/-- Twenty halvings are enough for any table shorter than a million ranges. -/
def contains (ranges : Ranges) (c : Char) : Bool := ranges.search c.toNat 20 0 ranges.size

/-- What has been read of a table: the ranges that are complete, the first end of a range whose last
one is still to come, and the number under way. -/
structure Progress where
  done : Ranges
  first : Option Nat
  number : Option Nat

def hexDigit (c : Char) : Nat := if c ≤ '9' then c.toNat - 48 else c.toNat - 87

def Progress.finish (p : Progress) : Progress :=
  match p.number with
  | some last => ⟨p.done.push (p.first.getD last, last), none, none⟩
  | none => p

def Progress.step (p : Progress) (c : Char) : Progress :=
  if c = ' ' || c = '\n' then p.finish
  else if c = '-' then { p with first := p.number, number := none }
  else { p with number := some (p.number.getD 0 * 16 + hexDigit c) }

def ofText (table : String) : Ranges :=
  (table.toList.foldl Progress.step ⟨#[], none, none⟩).finish.done

end Ranges
end SeriesClient.Text
