/-!
# Charts of characters

A property of characters is written down as a **chart**: the ranges of code points that
have it, in rising order.  Charts are long, so they are kept as text, a row of base-36
numbers with a blank between two of them, and read once.

* `numbers` reads such a row;
* `Chart.ofRow` reads a set of ranges, each written as its distance from the end of the
  range before and its length less one;
* `ValueChart.ofRow` reads ranges that carry a number;
* `Chart.contains`, `ValueChart.find?` look a code point up by halving.
-/

namespace Intake.Text

/-- The value of a base-36 digit: `0` to `9`, then `a` to `z`. -/
def digit36 (c : Char) : Nat :=
  if c.toNat < 'a'.toNat then c.toNat - '0'.toNat else c.toNat - 'a'.toNat + 10

/-- The numbers of a row: what has been read, and the number that is still being read. -/
structure RowState where
  done : Array Nat
  open? : Option Nat

/-- One more character of a row. -/
def RowState.step (st : RowState) (c : Char) : RowState :=
  if c = ' ' then
    match st.open? with
    | some n => ⟨st.done.push n, none⟩
    | none => st
  else
    match st.open? with
    | some n => ⟨st.done, some (n * 36 + digit36 c)⟩
    | none => ⟨st.done, some (digit36 c)⟩

/-- The numbers of a row of base-36 numerals with blanks between them. -/
def numbers (row : String) : List Nat :=
  let st := row.toList.foldl RowState.step ⟨#[], none⟩
  match st.open? with
  | some n => (st.done.push n).toList
  | none => st.done.toList

/-- A set of code points: closed ranges in rising order. -/
structure Chart where
  ranges : Array (Nat × Nat)

namespace Chart

/-- The ranges of a row that starts after `last`: gap and length less one, in turn. -/
def rangesAfter (last : Nat) : List Nat → List (Nat × Nat)
  | gap :: extra :: rest =>
    (last + gap, last + gap + extra) :: rangesAfter (last + gap + extra) rest
  | _ => []

/-- The chart that a row describes. -/
def ofRow (row : String) : Chart :=
  ⟨(rangesAfter 0 (numbers row)).toArray⟩

/-- Halving search for `n` among the ranges from index `lo` up to, not including, `hi`. -/
def search (ranges : Array (Nat × Nat)) (n lo hi : Nat) : Bool :=
  if lo < hi then
    match ranges[(lo + hi) / 2]? with
    | none => false
    | some (first, last) =>
      if n < first then search ranges n lo ((lo + hi) / 2)
      else if last < n then search ranges n ((lo + hi) / 2 + 1) hi
      else true
  else false
termination_by hi - lo

/-- Does the chart hold code point `n`? -/
def contains (chart : Chart) (n : Nat) : Bool :=
  search chart.ranges n 0 chart.ranges.size

end Chart

/-- A map from code points to numbers: closed ranges in rising order, each with its value. -/
structure ValueChart where
  ranges : Array (Nat × Nat × Nat)

namespace ValueChart

/-- The ranges of a row that starts after `last`: gap, length less one, value, in turn. -/
def rangesAfter (last : Nat) : List Nat → List (Nat × Nat × Nat)
  | gap :: extra :: value :: rest =>
    (last + gap, last + gap + extra, value) :: rangesAfter (last + gap + extra) rest
  | _ => []

/-- The chart that a row describes. -/
def ofRow (row : String) : ValueChart :=
  ⟨(rangesAfter 0 (numbers row)).toArray⟩

/-- Halving search for `n` among the ranges from index `lo` up to, not including, `hi`. -/
def search (ranges : Array (Nat × Nat × Nat)) (n lo hi : Nat) : Option (Nat × Nat) :=
  if lo < hi then
    match ranges[(lo + hi) / 2]? with
    | none => none
    | some (first, last, value) =>
      if n < first then search ranges n lo ((lo + hi) / 2)
      else if last < n then search ranges n ((lo + hi) / 2 + 1) hi
      else some (n - first, value)
  else none
termination_by hi - lo

/-- The value at code point `n`, with the place of `n` in its range. -/
def findWithPlace? (chart : ValueChart) (n : Nat) : Option (Nat × Nat) :=
  search chart.ranges n 0 chart.ranges.size

/-- The value at code point `n`. -/
def find? (chart : ValueChart) (n : Nat) : Option Nat :=
  (chart.findWithPlace? n).map Prod.snd

end ValueChart

end Intake.Text
