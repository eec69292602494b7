/-!
# Binary floating point of 64 bits

A finite number is a significand times a power of two.  The power is counted from the finest
one there is, `2 ^ -1074`, so every finite number is a whole number of **grains** of that
size, and comparing two of them, or one with an integer, is comparing integers.  Each finite
number has one form only: its significand has 53 bits, or fewer if it counts grains as they are.

* `Binary64.round` rounds a quotient of grains to the nearest number, ties to the even
  significand, and to an infinity beyond the range;
* `Binary64.ofInt`, `Binary64.ofDecimal` round an integer and a decimal;
* `Binary64.plus`, `Binary64.times`, `Binary64.negated` reckon;
* `Binary64.compare?` orders two numbers, `Binary64.compareInt?` a number and an integer;
  a number that is not one (`nan`) compares with nothing.
-/

namespace Intake

/-- Is this a significand at its place?  It has at most 53 bits, all of them unless the place is
the lowest. -/
def isSignificand (significand place : Nat) : Bool :=
  significand < 1 <<< 53 && place ≤ 2045 && (place == 0 || 1 <<< 52 ≤ significand)

/-- A floating-point number.  The value of `finite negative significand place` is
`significand * 2 ^ place` grains, negated if `negative`. -/
inductive Binary64 where
  | nan
  | infinite (negative : Bool)
  | finite (negative : Bool) (significand place : Nat)
      (normal : isSignificand significand place = true)
deriving DecidableEq, Repr, Inhabited

namespace Binary64

/-- The number of grains in one. -/
def grainsPerUnit : Nat := 1 <<< 1074

/-- The zero of a sign. -/
def zeroOf (negative : Bool) : Binary64 := .finite negative 0 0 (by decide)

/-- Zero. -/
def zero : Binary64 := zeroOf false

/-- The number of a significand at its place; what has no such form is beyond the range. -/
def ofParts (negative : Bool) (significand place : Nat) : Binary64 :=
  if h : isSignificand significand place = true then .finite negative significand place h
  else .infinite negative

/-- The quotient rounded to the nearest integer, a tie to the even one. -/
def roundQuotient (num den : Nat) : Nat :=
  let q := num / den
  let twice := 2 * (num % den)
  if twice < den then q
  else if den < twice then q + 1
  else if q % 2 = 0 then q else q + 1

/-- The place at which a magnitude of `grains` whole grains keeps 53 significant bits. -/
def placeOf (grains : Nat) : Nat :=
  Nat.log2 grains - 52

/-- The number nearest to `num / den` grains. -/
def round (negative : Bool) (num den : Nat) : Binary64 :=
  let place := placeOf (num / den)
  let significand := roundQuotient num (den <<< place)
  if significand = 1 <<< 53 then ofParts negative (1 <<< 52) (place + 1)
  else ofParts negative significand place

/-- The number nearest to an integer. -/
def ofInt (n : Int) : Binary64 :=
  round (n < 0) (n.natAbs * grainsPerUnit) 1

/-- Is the number finite? -/
def isFinite : Binary64 → Bool
  | .finite .. => true
  | _ => false

/-- The number nearest to an integer, unless the integer is out of range. -/
def ofInt? (n : Int) : Option Binary64 :=
  if (ofInt n).isFinite then some (ofInt n) else none

/-- The number nearest to `digits * 10 ^ exponent`.  Far beyond the range, where the power
itself would be costly to form, the answer is known from the number of digits. -/
def ofDecimal (negative : Bool) (digits : Nat) (exponent : Int) : Binary64 :=
  let size : Int := (Nat.log2 digits / 3 + 1 : Nat)
  if digits = 0 then zeroOf negative
  else if 400 < exponent then .infinite negative
  else if exponent + size < -400 then zeroOf negative
  else if 0 ≤ exponent then round negative (digits * Nat.pow 10 exponent.toNat * grainsPerUnit) 1
  else round negative (digits * grainsPerUnit) (Nat.pow 10 exponent.natAbs)

/-- The number of grains of a finite number. -/
def grains? : Binary64 → Option Int
  | .finite negative significand place _ =>
    let magnitude : Int := (significand <<< place : Nat)
    some (if negative then -magnitude else magnitude)
  | _ => none

/-- The number nearest to some grains. -/
def ofGrains (grains : Int) : Binary64 := round (grains < 0) grains.natAbs 1

/-- The sum of two numbers. -/
def plus (x y : Binary64) : Binary64 :=
  match x.grains?, y.grains? with
  | some a, some b => ofGrains (a + b)
  | some _, none => y
  | none, some _ => x
  | none, none => if x = y then x else .nan

/-- The product of a number and a positive integer. -/
def times (x : Binary64) (n : Nat) : Binary64 :=
  match x.grains? with
  | some a => ofGrains (a * n)
  | none => x

/-- The number with the other sign. -/
def negated : Binary64 → Binary64
  | .nan => .nan
  | .infinite negative => .infinite (!negative)
  | .finite negative significand place h => .finite (!negative) significand place h

/-- The order of two numbers. -/
def compare? : Binary64 → Binary64 → Option Ordering
  | .nan, _ => none
  | _, .nan => none
  | .infinite a, .infinite b => some (Ord.compare (!a) (!b))
  | .infinite a, .finite .. => some (if a then .lt else .gt)
  | .finite .., .infinite b => some (if b then .gt else .lt)
  | .finite a m p _, .finite b n q _ =>
    let left : Int := (m <<< p : Nat)
    let right : Int := (n <<< q : Nat)
    some (Ord.compare (if a then -left else left) (if b then -right else right))

/-- The order of a number and an integer. -/
def compareInt? : Binary64 → Int → Option Ordering
  | .nan, _ => none
  | .infinite a, _ => some (if a then .lt else .gt)
  | .finite a m p _, n =>
    let left : Int := (m <<< p : Nat)
    some (Ord.compare (if a then -left else left) (n * (grainsPerUnit : Int)))

/-- Are the two numbers equal?  The two zeros are; nothing equals `nan`. -/
def eqv (x y : Binary64) : Bool :=
  x.compare? y == some .eq

/-- Is the number equal to the integer? -/
def eqvInt (x : Binary64) (n : Int) : Bool :=
  x.compareInt? n == some .eq

/-- Is the number a zero of either sign? -/
def isZero : Binary64 → Bool
  | .finite _ m _ _ => m == 0
  | _ => false

/-- The integer a finite number equals, if there is one. -/
def toInt? : Binary64 → Option Int
  | .finite negative m p _ =>
    if (m <<< p) % grainsPerUnit = 0 then
      let magnitude : Int := ((m <<< p) / grainsPerUnit : Nat)
      some (if negative then -magnitude else magnitude)
    else none
  | _ => none

end Binary64

end Intake
