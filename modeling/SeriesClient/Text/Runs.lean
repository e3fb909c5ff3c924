/-! Characters to which numbers belong, where neighbours often have neighbouring numbers. A long
table is written as a text: `2c0>1f4` gives one character a number, `df>73.73` two, and
`100-12e/2>101` every second one of a run. -/

namespace SeriesClient.Text

/-- The characters `first`, `first + step` and so on up to `last`, and the numbers of the first of
them. -/
structure Run where
  first : Nat
  last : Nat
  step : Nat
  numbers : List Nat
  deriving DecidableEq, Repr

namespace Run

def has (run : Run) (n : Nat) : Bool :=
  run.first ≤ n && n ≤ run.last && (n - run.first) % run.step == 0

/-- The numbers of a later character of a run, the last one of which keeps pace with it. -/
def numbersAt (run : Run) (n : Nat) : List Nat :=
  match run.numbers.reverse with
  | [] => []
  | last :: others => (others.reverse).concat (last + (n - run.first))

end Run

/-- Runs in rising order, none of which begins before the one in front of it ends. -/
abbrev Runs := Array Run

namespace Runs

/-- Looks for the run around `n` among those from `low` up to `high`, at most `fuel` of them by
halving. -/
def search? (runs : Runs) (n : Nat) : Nat → Nat → Nat → Option Run
  | 0, _, _ => none
  | fuel + 1, low, high =>
    if low < high then
      let middle := (low + high) / 2
      match runs[middle]? with
      | none => none
      | some run =>
        if n < run.first then search? runs n fuel low middle
        else if run.last < n then search? runs n fuel (middle + 1) high
        else if run.has n then some run
        else none
    else none

/-- Twenty halvings are enough for any table shorter than a million runs. -/
def find? (runs : Runs) (c : Char) : Option Run := runs.search? c.toNat 20 0 runs.size

/-- The characters that a table gives for one, if it is there. -/
def target? (runs : Runs) (c : Char) : Option (List Char) :=
  (runs.find? c).map fun run => (run.numbersAt c.toNat).map Char.ofNat

/-- A number and the character that stands before it. -/
structure Field where
  mark : Char
  number : Nat

/-- What has been read of a table: the runs that are complete, the fields of the one under way, last
first, and the field under way. -/
structure Progress where
  done : Runs
  fields : List Field
  mark : Char
  number : Nat

def fieldOr (fields : List Field) (mark : Char) (otherwise : Nat) : Nat :=
  ((fields.find? (·.mark = mark)).map (·.number)).getD otherwise

def runOf (fields : List Field) : Run :=
  let first := fieldOr fields ' ' 0
  { first
    last := fieldOr fields '-' first
    step := fieldOr fields '/' 1
    numbers := (fields.filter fun f => f.mark = '>' || f.mark = '.').map (·.number) }

def Progress.finish (p : Progress) : Progress :=
  { done := p.done.push (runOf (⟨p.mark, p.number⟩ :: p.fields).reverse)
    fields := []
    mark := ' '
    number := 0 }

def Progress.step (p : Progress) (c : Char) : Progress :=
  if c = ' ' || c = '\n' then p.finish
  else if c = '-' || c = '/' || c = '>' || c = '.' then
    { p with fields := ⟨p.mark, p.number⟩ :: p.fields, mark := c, number := 0 }
  else { p with number := p.number * 16 + (if c ≤ '9' then c.toNat - 48 else c.toNat - 87) }

def ofText (table : String) : Runs :=
  (table.toList.foldl Progress.step ⟨#[], [], ' ', 0⟩).finish.done

end Runs
end SeriesClient.Text
