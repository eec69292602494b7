import Intake.Number.Binary64
import Intake.Text.Blank
import Intake.Text.Digit

/-!
# Numerals

How a text is read as a number.  Blanks at the ends do not count, decimal digits of every
script do, and single low lines may separate digits.

* `readInt` reads an integer: a sign and at most 4300 digits;
* `readIntIn?` reads an integer in another base, of any length;
* `readFloat?` reads a floating-point number: digits with an optional point and exponent, or
  a spelled-out infinity or `nan`.
-/

namespace Intake.Numeral

open Intake.Text

/-- More digits than this are not converted between integers and text. -/
def digitLimit : Nat := 4300

/-- Why a text is not an integer. -/
inductive IntError where
  | malformed
  | tooLong (digits : Nat)
deriving DecidableEq, Repr

/-- The characters between the blanks at the ends, with the digits of every script as `0` to
`9` and inner blanks as spaces. -/
def plain (s : String) : List Char :=
  (stripChars s.toList).map fun c =>
    match digitValue? c with
    | some d => Char.ofNat ('0'.toNat + d)
    | none => if isBlank c then ' ' else c

/-- Is `c` one of `0` to `9`? -/
def isDigit (c : Char) : Bool := '0' ≤ c && c ≤ '9'

/-- The characters without their low lines, provided each stands between two digits.
`before` says whether the character before was a digit. -/
def dropLowLines (before : Bool) : List Char → Option (List Char)
  | [] => some []
  | '_' :: c :: rest =>
    if before && isDigit c then (dropLowLines true rest).map (c :: ·) else none
  | '_' :: [] => none
  | c :: rest => (dropLowLines (isDigit c) rest).map (c :: ·)

/-- A sign, if one is there, and what follows. -/
def sign : List Char → Bool × List Char
  | '-' :: rest => (true, rest)
  | '+' :: rest => (false, rest)
  | cs => (false, cs)

/-- The number that a row of digits writes. -/
def ofDigits (cs : List Char) : Nat :=
  cs.foldl (fun n c => n * 10 + (c.toNat - '0'.toNat)) 0

/-- The integer that a text writes. -/
def readInt (s : String) : Except IntError Int :=
  let (negative, body) := sign (plain s)
  match dropLowLines false body with
  | none => .error .malformed
  | some ds =>
    if ds.isEmpty || !ds.all isDigit then .error .malformed
    else if digitLimit < ds.length then .error (.tooLong ds.length)
    else
      let n : Int := ofDigits ds
      .ok (if negative then -n else n)

/-- The value of a digit in bases up to 36, letters of either case after the ten digits. -/
def digitIn (c : Char) : Nat :=
  if isDigit c then c.toNat - '0'.toNat
  else if c.isAlpha then c.toLower.toNat - 'a'.toNat + 10
  else 36

/-- The digits after the mark of a base, if it is there. -/
def afterBaseMark (mark : Char) : List Char → List Char
  | '0' :: c :: rest => if c.toLower = mark then rest else '0' :: c :: rest
  | cs => cs

/-- The integer that a text writes in a base; `mark` is the letter that can stand for the base
after a leading zero. -/
def readIntIn? (base : Nat) (mark : Char) (s : String) : Option Int :=
  let (negative, body) := sign (plain s)
  let ds := afterBaseMark mark body
  if ds.isEmpty || !ds.all (fun c => digitIn c < base) then none
  else
    let n : Int := (ds.foldl (fun n c => n * base + digitIn c) 0 : Nat)
    some (if negative then -n else n)

/-- The exponent part of a numeral: nothing, or a mark, a sign and digits. -/
def exponent? : List Char → Option Int
  | [] => some 0
  | c :: rest =>
    if c = 'e' ∨ c = 'E' then
      let (negative, ds) := sign rest
      if ds.isEmpty || !ds.all isDigit then none
      else
        let n : Int := ofDigits ds
        some (if negative then -n else n)
    else none

/-- An unsigned decimal numeral: digits, a point among or around them, and an exponent. -/
def decimal? (negative : Bool) (cs : List Char) : Option Binary64 :=
  let whole := cs.takeWhile isDigit
  let rest := cs.dropWhile isDigit
  let (fraction, tail) :=
    match rest with
    | '.' :: more => (more.takeWhile isDigit, more.dropWhile isDigit)
    | _ => ([], rest)
  if whole.isEmpty && fraction.isEmpty then none
  else
    (exponent? tail).map fun e =>
      .ofDecimal negative (ofDigits (whole ++ fraction)) (e - fraction.length)

/-- The spelled-out numbers. -/
def named? (negative : Bool) (cs : List Char) : Option Binary64 :=
  let name := String.ofList (cs.map Char.toLower)
  if name = "inf" ∨ name = "infinity" then some (.infinite negative)
  else if name = "nan" then some .nan
  else none

/-- The floating-point number that a text writes. -/
def readFloat? (s : String) : Option Binary64 :=
  match dropLowLines false (plain s) with
  | none => none
  | some cs =>
    let (negative, body) := sign cs
    match named? negative body with
    | some x => some x
    | none => decimal? negative body

end Intake.Numeral
