import Intake.Text.Chart

/-!
# Decimal digits

Every script writes its ten decimal digits as ten neighbouring code points, so the chart of
digits is the list of their zeros.  `digitValue?` reads the value of a digit of any script.
-/

namespace Intake.Text

/-- The zeros of all scripts but the first, each as its distance from the one before. -/
def zeroRow : String :=
  String.join [
    "1c 180 40 5s bq 3k 3k 3k 3k 3k 3k 3k 3k 3k 2y 3k 28 80 28 1g0 1c 8m 3u 4w g 5c 2o 40 g r80 ",
    "j4 1c 5s w 2o bk gf4 13k 1ow mu 3u 1y 4a 80 9s 3k ao 34 34 c0 34 lc 74 28 f5s 2o 40 lfi a a ",
    "a a 1u2 c0 19c 3og"]

/-- Sums of the starts of a list of distances. -/
def runningSums (from_ : Nat) : List Nat → List Nat
  | [] => []
  | gap :: rest => (from_ + gap) :: runningSums (from_ + gap) rest

/-- The ten digits of every script, as ranges. -/
def digitChart : ValueChart :=
  ⟨((runningSums 0 (numbers zeroRow)).map fun first => (first, first + 9, first)).toArray⟩

/-- The value of a decimal digit of any script. -/
def digitValue? (c : Char) : Option Nat :=
  if c.toNat < 128 then
    if '0' ≤ c ∧ c ≤ '9' then some (c.toNat - '0'.toNat) else none
  else (digitChart.findWithPlace? c.toNat).map Prod.fst

/-- Is `c` a decimal digit of some script? -/
def isDecimal (c : Char) : Bool :=
  (digitValue? c).isSome

end Intake.Text
