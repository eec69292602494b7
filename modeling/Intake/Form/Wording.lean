import Intake.Form.Basic

/-!
# Wording

The messages that a form shows beside a field.  A bound is written out in the message: a whole
number without a fraction, whatever sort of number it is.
-/

namespace Intake.Wording

/-- Said of a required field without an answer. -/
def required : String := "This field is required"

/-- Said of a field without an answer that its condition requires. -/
def requiredNow : String := "This field is required when the condition is met"

/-- Said of a text that does not match the pattern of its field. -/
def invalidFormat : String := "Invalid format"

/-- Said of an answer that should be a text. -/
def invalidText : String := "Must be text"

/-- Said of an answer that should be the address of a mailbox. -/
def invalidEmail : String := "Please enter a valid email address"

/-- Said of an answer that should be the address of a page. -/
def invalidUrl : String := "Please enter a valid URL"

/-- Said of an answer that should be a number. -/
def invalidNumber : String := "Must be a number"

/-- Said of an answer that should be true or false. -/
def invalidBoolean : String := "Must be true or false"

/-- Said of an answer that should be a list. -/
def invalidList : String := "Must be a list of values"

/-- Said of an answer that should be a date. -/
def invalidDate : String := "Must be a valid date"

/-- A bound, without a fraction if it is whole. -/
def trimmed? : Bound → Except Fault String
  | .int n => Value.intText? n
  | .float x =>
    match x.toInt? with
    | some n => Value.intText? n
    | none => .ok x.text

/-- The ending of a counted noun. -/
def plural (b : Bound) : String := if b.exceeds (.int 1) then "s" else ""

/-- Said of a text that is too short. -/
def minLength? (b : Bound) : Except Fault String :=
  b.text?.map fun n => "Must be at least " ++ n ++ " characters"

/-- Said of a text that is too long. -/
def maxLength? (b : Bound) : Except Fault String :=
  b.text?.map fun n => "Must be no more than " ++ n ++ " characters"

/-- Said of a number that is too small. -/
def minValue? (b : Bound) : Except Fault String :=
  (trimmed? b).map fun n => "Must be at least " ++ n

/-- Said of a number that is too large. -/
def maxValue? (b : Bound) : Except Fault String :=
  (trimmed? b).map fun n => "Must be no more than " ++ n

/-- Said of a list with too few items. -/
def minItems? (b : Bound) : Except Fault String :=
  b.text?.map fun n => "Please select at least " ++ n ++ " option" ++ plural b

/-- Said of a list with too many items. -/
def maxItems? (b : Bound) : Except Fault String :=
  b.text?.map fun n => "Please select no more than " ++ n ++ " option" ++ plural b

end Intake.Wording
