import Intake.Number.Binary64

/-!
# The shortest decimal that reads back

A floating-point number stands for all the reals that round to it.  Among the decimals in
that interval `Binary64.shortest` takes one with the fewest digits, and of those the nearest
to the number itself.

`Binary64.text` writes it: plain from `0.0001` up to seventeen places before the point
(`1e16` is the first with an exponent), otherwise with one digit before the point and an
exponent of at least two digits.
-/

namespace Intake

namespace Binary64

/-- How many decimal digits `n` has; zero has one. -/
def digitCount (n : Nat) : Nat :=
  (Nat.toDigits 10 n).length

/-- The exponent `e` with `10 ^ e ≤ num / den < 10 ^ (e + 1)`. -/
def decimalExponent (num den : Nat) : Int :=
  if den ≤ num then (digitCount (num / den) : Int) - 1
  else
    let j := digitCount (den / num) - 1
    if den ≤ num * Nat.pow 10 j then -(j : Int) else -((j : Int) + 1)

/-- The reals that round to a number, as quarter grains: lower end, the number itself, upper
end, and whether the ends belong. -/
structure Interval where
  low : Nat
  value : Nat
  high : Nat
  closed : Bool

/-- The interval of a nonzero finite number.  Below a power of two the next number is only
half as far away. -/
def interval (significand place : Nat) : Interval :=
  let value := 4 * (significand <<< place)
  let below := if significand = 1 <<< 52 ∧ 0 < place then 1 <<< place else 2 <<< place
  ⟨value - below, value, value + (2 <<< place), significand % 2 = 0⟩

/-- Is `num / den` quarter grains in the interval? -/
def Interval.holds (i : Interval) (num den : Nat) : Bool :=
  if i.closed then i.low * den ≤ num && num ≤ i.high * den
  else i.low * den < num && num < i.high * den

/-- The decimal with `count` digits that is nearest to the value and lies in the interval:
its digits and the exponent of the last one. -/
def decimalOfLength? (i : Interval) (top : Int) (count : Nat) : Option (Nat × Int) :=
  let last := top - (count : Int) + 1
  let unit := 4 * grainsPerUnit
  let (up, down) := if 0 ≤ last then (Nat.pow 10 last.toNat, 1) else (1, Nat.pow 10 last.natAbs)
  let floor := i.value * down / (unit * up)
  let rest := i.value * down % (unit * up)
  let fits (d : Nat) : Bool := i.holds (d * up * unit) down
  let nearFloor := 2 * rest < unit * up || (2 * rest == unit * up && floor % 2 == 0)
  match fits floor, fits (floor + 1) with
  | true, true => some (if nearFloor then floor else floor + 1, last)
  | true, false => some (floor, last)
  | false, true => some (floor + 1, last)
  | false, false => none

/-- The digits without the zeros at the end, and the exponent of the last one. -/
def trimZeros (fuel : Nat) (digits : Nat) (exponent : Int) : Nat × Int :=
  match fuel with
  | 0 => (digits, exponent)
  | fuel + 1 =>
    if digits % 10 = 0 ∧ 0 < digits then trimZeros fuel (digits / 10) (exponent + 1)
    else (digits, exponent)

/-- The shortest decimal that reads back as a nonzero finite number: its digits and the
exponent of the last one. -/
def shortest (significand place : Nat) : Nat × Int :=
  let i := interval significand place
  let top := decimalExponent (significand <<< place) grainsPerUnit
  match (List.range 17).findSome? fun k => decimalOfLength? i top (k + 1) with
  | some (digits, exponent) => trimZeros 20 digits exponent
  | none => (0, 0)

/-- An exponent with its sign and at least two digits. -/
def exponentText (e : Int) : String :=
  let digits := toString e.natAbs
  (if e < 0 then "-" else "+") ++ (if digits.length < 2 then "0" ++ digits else digits)

/-- A run of zeros. -/
def zeros (n : Nat) : String :=
  String.ofList (List.replicate n '0')

/-- The text of a positive decimal. -/
def decimalText (digits : Nat) (exponent : Int) : String :=
  let ds := toString digits
  let count : Int := ds.length
  let top := exponent + count - 1
  if -4 ≤ top ∧ top < 16 then
    if 0 ≤ exponent then ds ++ zeros exponent.toNat ++ ".0"
    else if 0 ≤ top then
      let whole := (count + exponent).toNat
      String.ofList (ds.toList.take whole) ++ "." ++ String.ofList (ds.toList.drop whole)
    else "0." ++ zeros (-top - 1).toNat ++ ds
  else
    let rest := String.ofList (ds.toList.drop 1)
    String.ofList (ds.toList.take 1) ++ (if rest.isEmpty then "" else "." ++ rest) ++
      "e" ++ exponentText top

/-- The text of a number. -/
def text : Binary64 → String
  | .nan => "nan"
  | .infinite negative => if negative then "-inf" else "inf"
  | .finite negative significand place _ =>
    let sign := if negative then "-" else ""
    if significand = 0 then sign ++ "0.0"
    else
      let (digits, exponent) := shortest significand place
      sign ++ decimalText digits exponent

end Binary64

end Intake
