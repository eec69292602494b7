import Intake.Form.Basic

/-!
# Issues

What is wrong with the data that is to become a form or a configuration: a place in the data,
and why what stands there will not do.
-/

namespace Intake

/-- A step into data: to a key, or to an item of a list. -/
inductive Step where
  | key (name : String)
  | item (index : Nat)
deriving DecidableEq, Repr

/-- Why data will not do. -/
inductive IssueCause where
  | missing
  | notText
  | emptyText
  | notBoolean
  | unclearBoolean
  | notInteger
  | unreadableInteger
  | integerTooLarge
  | hasFraction
  | notFinite
  | notNumber
  | unreadableNumber
  | below (least : Int)
  | noneOf (names : List String)
  | not_ (literal : String)
  | notRecord (name : String)
  | notCallable
  | notList
  | refused (why : String)
deriving DecidableEq, Repr

namespace IssueCause

/-- Names between quotes, the last one after `or`. -/
def alternatives (names : List String) : String :=
  let quoted := names.map Text.quoted
  match quoted.reverse with
  | [] => ""
  | [only] => only
  | last :: before => ", ".intercalate before.reverse ++ " or " ++ last

/-- The short name of a cause. -/
def tag : IssueCause → String
  | .missing => "missing"
  | .notText => "string_type"
  | .emptyText => "string_too_short"
  | .notBoolean => "bool_type"
  | .unclearBoolean => "bool_parsing"
  | .notInteger => "int_type"
  | .unreadableInteger => "int_parsing"
  | .integerTooLarge => "int_parsing_size"
  | .hasFraction => "int_from_float"
  | .notFinite => "finite_number"
  | .notNumber => "float_type"
  | .unreadableNumber => "float_parsing"
  | .below _ => "greater_than_equal"
  | .noneOf _ => "enum"
  | .not_ _ => "literal_error"
  | .notRecord _ => "model_type"
  | .notCallable => "callable_type"
  | .notList => "list_type"
  | .refused _ => "value_error"

/-- The wording of a cause. -/
def message : IssueCause → String
  | .missing => "Field required"
  | .notText => "Input should be a valid string"
  | .emptyText => "String should have at least 1 character"
  | .notBoolean => "Input should be a valid boolean"
  | .unclearBoolean => "Input should be a valid boolean, unable to interpret input"
  | .notInteger => "Input should be a valid integer"
  | .unreadableInteger => "Input should be a valid integer, unable to parse string as an integer"
  | .integerTooLarge =>
    "Unable to parse input string as an integer, exceeded maximum size"
  | .hasFraction => "Input should be a valid integer, got a number with a fractional part"
  | .notFinite => "Input should be a finite number"
  | .notNumber => "Input should be a valid number"
  | .unreadableNumber => "Input should be a valid number, unable to parse string as a number"
  | .below least => "Input should be greater than or equal to " ++ toString least
  | .noneOf names => "Input should be " ++ alternatives names
  | .not_ literal => "Input should be " ++ Text.quoted literal
  | .notRecord name => "Input should be a valid dictionary or instance of " ++ name
  | .notCallable => "Input should be callable"
  | .notList => "Input should be a valid list"
  | .refused why => "Value error, " ++ why

end IssueCause

/-- Something wrong at a place in data. -/
structure Issue where
  place : List Step
  cause : IssueCause
deriving DecidableEq, Repr

/-- The issue seen from one step further out. -/
def Issue.under (step : Step) (i : Issue) : Issue := { i with place := step :: i.place }

end Intake
