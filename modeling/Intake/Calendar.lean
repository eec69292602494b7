/-!
# Calendar days and moments

A `Day` is a day of the Gregorian calendar in the years 1 to 9999, and carries the proof that
there is such a day.  A `Moment` is a day with a time, and perhaps an offset from universal
time; it carries the proof that clocks show such a time.

* `Day.of?` builds the day with a given number, month and year, if there is one, and
  `Moment.of?` a moment of it;
* `Day.text` and `Moment.text` write them year first;
* `Moment.eqv` compares moments: with an offset, as instants; without, by what they show; one
  of each kind never agrees.
-/

namespace Intake

/-- Does the year have a 29th of February? -/
def isLeapYear (year : Nat) : Bool :=
  year % 4 == 0 && (year % 100 != 0 || year % 400 == 0)

/-- The number of days of a month. -/
def daysInMonth (year month : Nat) : Nat :=
  if month = 2 then (if isLeapYear year then 29 else 28)
  else if month = 4 ∨ month = 6 ∨ month = 9 ∨ month = 11 then 30
  else 31

/-- Is there a day with these numbers? -/
def isCalendarDay (year month day : Nat) : Bool :=
  1 ≤ year && year ≤ 9999 && 1 ≤ month && month ≤ 12 && 1 ≤ day &&
    day ≤ daysInMonth year month

/-- A day of the calendar. -/
structure Day where
  year : Nat
  month : Nat
  day : Nat
  exists_ : isCalendarDay year month day = true
deriving DecidableEq

/-- A number with zeros in front of it up to a width. -/
def padded (width n : Nat) : String :=
  let digits := toString n
  String.ofList (List.replicate (width - digits.length) '0') ++ digits

namespace Day

/-- The day with these numbers, if there is one. -/
def of? (year month day : Nat) : Option Day :=
  if h : isCalendarDay year month day = true then some ⟨year, month, day, h⟩ else none

/-- The day as year, month and day with dashes. -/
def text (d : Day) : String :=
  padded 4 d.year ++ "-" ++ padded 2 d.month ++ "-" ++ padded 2 d.day

/-- The number of days from a fixed day in the past, which orders days. -/
def ordinal (d : Day) : Nat :=
  let before := d.year - 1
  let months := (List.range (d.month - 1)).foldl (fun n m => n + daysInMonth d.year (m + 1)) 0
  before * 365 + before / 4 - before / 100 + before / 400 + months + d.day

end Day

/-- Does a clock show this time, and is the offset less than a day? -/
def isClockTime (hour minute second micro : Nat) (offset : Option Int) : Bool :=
  hour ≤ 23 && minute ≤ 59 && second ≤ 59 && micro ≤ 999999 &&
    offset.all fun seconds => seconds.natAbs < 86400

/-- A day with a time, and perhaps an offset from universal time in seconds. -/
structure Moment where
  day : Day
  hour : Nat
  minute : Nat
  second : Nat
  micro : Nat
  offset : Option Int
  exists_ : isClockTime hour minute second micro offset = true
deriving DecidableEq

namespace Moment

/-- The moment of a day at a time, if there is such a time. -/
def of? (day : Day) (hour minute second micro : Nat) (offset : Option Int) : Option Moment :=
  if h : isClockTime hour minute second micro offset = true then
    some ⟨day, hour, minute, second, micro, offset, h⟩
  else none

/-- An offset as hours and minutes, with seconds if there are any. -/
def offsetText (offset : Int) : String :=
  let n := offset.natAbs
  (if offset < 0 then "-" else "+") ++ padded 2 (n / 3600) ++ ":" ++ padded 2 (n / 60 % 60) ++
    (if n % 60 = 0 then "" else ":" ++ padded 2 (n % 60))

/-- The moment with `mark` between day and time. -/
def textWith (mark : String) (m : Moment) : String :=
  m.day.text ++ mark ++ padded 2 m.hour ++ ":" ++ padded 2 m.minute ++ ":" ++ padded 2 m.second ++
    (if m.micro = 0 then "" else "." ++ padded 6 m.micro) ++
    (match m.offset with
     | some offset => offsetText offset
     | none => "")

/-- The moment with a space between day and time. -/
def text (m : Moment) : String := m.textWith " "

/-- Microseconds since a fixed moment in the past, by what the moment shows. -/
def shown (m : Moment) : Int :=
  ((((m.day.ordinal * 24 + m.hour) * 60 + m.minute) * 60 + m.second) * 1000000 + m.micro : Nat)

/-- Do the two moments agree? -/
def eqv (a b : Moment) : Bool :=
  match a.offset, b.offset with
  | none, none => a.shown == b.shown
  | some x, some y => a.shown - x * 1000000 == b.shown - y * 1000000
  | _, _ => false

end Moment

end Intake
