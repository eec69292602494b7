import Intake.Text.Blank
import Intake.Text.Digit
import Intake.Value.Basic

/-!
# How a day is entered

A day is written in one of two ways, blanks around it aside:

* year first, `2026-01-23`, possibly with a time after a `T` or a space, which is not looked
  at as long as it stays on the line;
* day first, `23.01.2026`, with a point, a slash or a dash at either place.

A year has four digits, a month or a day one or two; digits of every script count.  A value
that is a day or a moment already gives that day.
-/

namespace Intake

namespace DateEntry

open Text

/-- The number that decimal digits write. -/
def number (digits : List Char) : Nat :=
  digits.foldl (fun n c => n * 10 + (digitValue? c).getD 0) 0

/-- Takes digits off the front, as many as there are up to `most`; there must be `least`. -/
def digits? (least most : Nat) (cs : List Char) : Option (Nat × List Char) :=
  let ds := (cs.take most).takeWhile isDecimal
  if ds.length < least then none else some (number ds, cs.drop ds.length)

/-- Takes one of some characters off the front. -/
def mark? (marks : List Char) : List Char → Option (List Char)
  | c :: rest => if marks.contains c then some rest else none
  | [] => none

/-- Is there nothing left, or a time on the same line? -/
def isTimeOrNothing : List Char → Bool
  | [] => true
  | c :: rest => (c == 'T' || c == ' ') && !rest.contains '\n'

/-- Year, month and day of a text with the year first. -/
def yearFirst? (cs : List Char) : Option (Nat × Nat × Nat) := do
  let (year, cs) ← digits? 4 4 cs
  let cs ← mark? ['-'] cs
  let (month, cs) ← digits? 1 2 cs
  let cs ← mark? ['-'] cs
  let (day, cs) ← digits? 1 2 cs
  if isTimeOrNothing cs then some (year, month, day) else none

/-- The marks between the numbers of a text with the day first. -/
def dayFirstMarks : List Char := ['.', '/', '-']

/-- Year, month and day of a text with the day first. -/
def dayFirst? (cs : List Char) : Option (Nat × Nat × Nat) := do
  let (day, cs) ← digits? 1 2 cs
  let cs ← mark? dayFirstMarks cs
  let (month, cs) ← digits? 1 2 cs
  let cs ← mark? dayFirstMarks cs
  let (year, cs) ← digits? 4 4 cs
  if cs.isEmpty then some (year, month, day) else none

end DateEntry

/-- The day that a text writes, if there is such a day. -/
def Day.ofText? (s : String) : Option Day :=
  let cs := Text.stripChars s.toList
  ((DateEntry.yearFirst? cs).or (DateEntry.dayFirst? cs)).bind fun (year, month, day) =>
    Day.of? year month day

/-- The day that a value stands for. -/
def Value.day? : Value → Option Day
  | .day d => some d
  | .moment m => some m.day
  | .text s => Day.ofText? s
  | _ => none

end Intake
