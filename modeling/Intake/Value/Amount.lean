import Intake.Number.Numeral
import Intake.Value.Basic

/-!
# The amount of a value

A number, or a text that writes one, has an amount: a finite floating-point number.  Truth
values have none, and neither has what is out of range.

* `Value.amount?` is the amount;
* `Value.toFloat?` makes a value a floating-point number, with the errors that there are, and
  `Value.amountForCheck?` and `Value.amountForRule?` read the amount with its help, each in its own
  way.
-/

namespace Intake

/-- The amount of a number or of a text that writes one. -/
def Value.amount? : Value → Option Binary64
  | .int n => Binary64.ofInt? n
  | .float x => if x.isFinite then some x else none
  | .text s => (Numeral.readFloat? s).filter Binary64.isFinite
  | _ => none

namespace Binary64

/-- Is the first number less than the second? -/
def lt (x y : Binary64) : Bool := x.compare? y == some .lt

/-- Is the first number at most the second? -/
def le (x y : Binary64) : Bool := x.lt y || x.eqv y

end Binary64

/-- Why a value is not made a floating-point number: it is an integer out of range, a text that
writes none, or of a sort from which none is made. -/
inductive FloatError where
  | outOfRange
  | malformed
  | unsuited
deriving DecidableEq

namespace Value

/-- A number that is there, or else an error. -/
def orError (e : FloatError) : Option Binary64 → Except FloatError Binary64
  | some x => .ok x
  | none => .error e

/-- A value made a floating-point number.  An integer out of range is an error; a text that writes
one is not, but the number is infinite. -/
def toFloat? : Value → Except FloatError Binary64
  | .bool b => orError .outOfRange (Binary64.ofInt? (if b then 1 else 0))
  | .int n => orError .outOfRange (Binary64.ofInt? n)
  | .float x => .ok x
  | .text s => orError .malformed (Numeral.readFloat? s)
  | _ => .error .unsuited

/-- A text without the blanks around it, or another value. -/
def stripped : Value → Value
  | .text s => .text (Text.strip s)
  | v => v

/-- The number that was made of a value if it is finite, where some errors are passed over. -/
def finiteUnless (passed : List FloatError) (made : Except FloatError Binary64) :
    Except FloatError (Option Binary64) :=
  match made with
  | .ok x => .ok (if x.isFinite then some x else none)
  | .error e => if e ∈ passed then .ok none else .error e

/-- The amount as a check reads it: by the sort of the value, each with the one error that it is
known for. -/
def amountForCheck? : Value → Except FloatError (Option Binary64)
  | .bool _ => .ok none
  | .int n => finiteUnless [.outOfRange] (toFloat? (.int n))
  | .float x => finiteUnless [.outOfRange] (toFloat? (.float x))
  | .text s => finiteUnless [.malformed] (toFloat? (.text (Text.strip s)))
  | _ => .ok none

/-- Is the value of a sort that a rule reads as a number? -/
def isNumberOrText : Value → Bool
  | .int _ | .float _ | .text _ => true
  | _ => false

/-- The amount as a rule of a form's own reads it: all sorts in one way. -/
def amountForRule? (v : Value) : Except FloatError (Option Binary64) :=
  if v.isNumberOrText then finiteUnless [.malformed, .outOfRange] v.stripped.toFloat? else .ok none

end Value

end Intake
