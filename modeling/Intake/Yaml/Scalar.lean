import Intake.Number.Numeral
import Intake.Text.Case
import Intake.Value.Shown
import Intake.Yaml.Tag

/-!
# Values of scalars

What the text of a scalar stands for under its tag.  A tag can be put on a text that does not
suit it; then there is a fault.

Integers can be binary, octal or hexadecimal, and like numbers with a point they can be written
in sixties, `1:30` for ninety.
-/

namespace Intake.Yaml

/-- The text without low lines. -/
def withoutLowLines (cs : List Char) : List Char := cs.filter (· ≠ '_')

/-- A sign, if one is there, and what follows; there has to be something. -/
def signed? (cs : List Char) : Except Fault (Bool × List Char) :=
  match cs with
  | [] => .error .emptyNumeral
  | '-' :: rest => .ok (true, rest)
  | '+' :: rest => .ok (false, rest)
  | _ => .ok (false, cs)

/-- The truth value that a text stands for. -/
def boolValue? (text : String) : Except Fault Bool :=
  let word := Text.lower text
  match boolWords.lookup word with
  | some b => .ok b
  | none => .error (.notBoolean word)

/-- The integer that a text writes in decimal. -/
def decimalInt? (cs : List Char) : Except Fault Int :=
  let text := String.ofList cs
  match Numeral.readInt text with
  | .ok n => .ok n
  | .error .malformed => .error (.notInteger (Text.quoted text) "10")
  | .error (.tooLong n) => .error (.numeralTooLong n)

/-- The integer that a text writes in another base. -/
def basedInt? (base : Nat) (mark : Char) (cs : List Char) : Except Fault Int :=
  let text := String.ofList cs
  match Numeral.readIntIn? base mark text with
  | some n => .ok n
  | none => .error (.notInteger (Text.quoted text) (toString base))

/-- The parts of a text between colons. -/
def colonParts (cs : List Char) : List (List Char) := cs.splitOn ':'

/-- The integer that an unsigned text writes. -/
def unsignedInt? (cs : List Char) : Except Fault Int :=
  match cs with
  | [] => .error .emptyNumeral
  | ['0'] => .ok 0
  | '0' :: 'b' :: rest => basedInt? 2 'b' rest
  | '0' :: 'x' :: rest => basedInt? 16 'x' rest
  | '0' :: _ => basedInt? 8 'o' cs
  | _ =>
    if cs.contains ':' then
      (colonParts cs).foldlM (fun n part => (decimalInt? part).map fun d => n * 60 + d) 0
    else decimalInt? cs

/-- The integer that a text writes. -/
def intValue? (text : String) : Except Fault Int := do
  let (negative, rest) ← signed? (withoutLowLines text.toList)
  let n ← unsignedInt? rest
  return if negative then -n else n

/-- The number with a point that a text writes in decimal. -/
def decimalFloat? (cs : List Char) : Except Fault Binary64 :=
  let text := String.ofList cs
  match Numeral.readFloat? text with
  | some x => .ok x
  | none => .error (.notFloat (Text.quoted text))

/-- The sum of numbers, the last one counted once, and each earlier one sixty times as often. -/
def sumOfSixties (parts : List Binary64) : Binary64 :=
  (parts.reverse.foldl (fun (sum, unit) x => (sum.plus (x.times unit), unit * 60))
    (Binary64.zero, 1)).1

/-- The number with a point that an unsigned text writes. -/
def unsignedFloat? (cs : List Char) : Except Fault Binary64 :=
  if cs = ".inf".toList then .ok (.infinite false)
  else if cs = ".nan".toList then .ok .nan
  else if cs.contains ':' then ((colonParts cs).mapM decimalFloat?).map sumOfSixties
  else decimalFloat? cs

/-- The number with a point that a text writes. -/
def floatValue? (text : String) : Except Fault Binary64 := do
  let (negative, rest) ← signed? (Text.lower (String.ofList (withoutLowLines text.toList))).toList
  let x ← unsignedFloat? rest
  return if negative then x.negated else x

/-- The day with some numbers, or what is wrong with them. -/
def dayValue? (year month day : Nat) : Except Fault Day :=
  match Day.of? year month day with
  | some d => .ok d
  | none =>
    .error (.notADay (
      if year = 0 then "year 0 is out of range"
      else if month = 0 ∨ 12 < month then "month must be in 1..12"
      else "day is out of range for month"))

/-- The microseconds that the digits of a fraction write. -/
def micros (fraction : List Char) : Nat :=
  Numeral.ofDigits ((fraction ++ List.replicate 6 '0').take 6)

/-- The moment of a day at a time, or what is wrong with the time. -/
def momentValue? (day : Day) (t : StampTime) : Except Fault Moment :=
  match Moment.of? day t.hour t.minute t.second (micros t.fraction) t.offset with
  | some m => .ok m
  | none =>
    .error (.notADay (
      if 23 < t.hour then "hour must be in 0..23"
      else if 59 < t.minute then "minute must be in 0..59"
      else "second must be in 0..59"))

/-- Refuses an offset of a day or more. -/
def checkOffset (offset : Option Int) : Except Fault Unit :=
  match offset with
  | some offset =>
    if offset.natAbs < 86400 then .ok ()
    else .error (.badValue ("offset must be a timedelta strictly between " ++
      "-timedelta(hours=24) and timedelta(hours=24), not " ++ Moment.shownSpan offset ++ "."))
  | none => .ok ()

/-- The day or moment that a text writes. -/
def stampValue? (text : String) : Except Fault Value :=
  match Stamp.ofChars? (withoutFinalBreak text.toList) with
  | none => .error .noGroups
  | some s =>
    match s.time with
    | none => (dayValue? s.year s.month s.day).map .day
    | some t => do
      checkOffset t.offset
      let day ← dayValue? s.year s.month s.day
      return .moment (← momentValue? day t)

/-- The value of a scalar under a tag. -/
def scalarValue? (tag : Tag) (text : String) : Except Flaw Value :=
  let orFault (x : Except Fault Value) : Except Flaw Value := x.mapError .fault
  match tag with
  | .null => .ok .null
  | .bool => orFault ((boolValue? text).map .bool)
  | .int => orFault ((intValue? text).map .int)
  | .float => orFault ((floatValue? text).map .float)
  | .timestamp => orFault (stampValue? text)
  | .text => .ok (.text text)
  | _ => .error .malformed

end Intake.Yaml
