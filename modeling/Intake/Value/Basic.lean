import Intake.Number.Binary64
import Intake.Calendar

/-!
# Values

What a field of a form may hold before anything is known about it: nothing, truth values,
numbers, texts, days, collections, and functions that a form refers to.

Functions come in four sorts: **predicates** over the value of a controlling field, **tests**
of custom rules, **cleaners** that a field may run after its type's own, and functions that
the **host** of the engine supplies by name.  Predicates and tests are made afresh each time a
form is read, so they carry an `Identity`, by which they are told apart.
-/

namespace Intake

/-- Where in a field a function was made. -/
inductive Slot where
  | condition
  | second
  | rule
deriving DecidableEq, Repr

/-- Which form a function was made for: one that comes with the engine, or the form with a
given number among those that were read. -/
inductive Origin where
  | builtin (form : String)
  | read (serial : Nat)
deriving DecidableEq, Repr

/-- What tells one made function from another. -/
structure Identity where
  origin : Origin
  field : Nat
  slot : Slot
deriving DecidableEq, Repr

/-- A predicate over the value of a controlling field. -/
inductive Predicate (α : Type) where
  | equals (expected : α)
  | contains (item : α)
  | isTruthy
  | notEmpty

/-- A test of a custom rule. -/
inductive RuleTest (α : Type) where
  | ticketLink
  | ticketKey
  | emailDomain (suffix : String)
  | notMoreThan (field : α)
  | atLeastItemsOf (field : α)
  | uniqueItems

/-- A cleaner that a field may run after its type's own. -/
inductive Cleaner where
  | collapseBlanks
  | lower
  | upper
deriving DecidableEq, Repr

/-- A function that a form refers to. -/
inductive Callable (α : Type) where
  | predicate (p : Predicate α) (identity : Identity)
  | test (t : RuleTest α) (identity : Identity)
  | cleaner (c : Cleaner)
  | host (name : String)

/-- What tells two functions apart. -/
inductive CallableKey where
  | made (identity : Identity)
  | cleaner (c : Cleaner)
  | host (name : String)
deriving DecidableEq, Repr

/-- What tells a function from others. -/
def Callable.key {α : Type} : Callable α → CallableKey
  | .predicate _ identity => .made identity
  | .test _ identity => .made identity
  | .cleaner c => .cleaner c
  | .host name => .host name

/-- A value of a field, a literal of a condition, a default, or data that describes a form. -/
inductive Value where
  | null
  | bool (b : Bool)
  | int (n : Int)
  | float (x : Binary64)
  | text (s : String)
  | list (items : List Value)
  | tuple (items : List Value)
  | set (items : List Value)
  | day (d : Day)
  | moment (m : Moment)
  | dict (entries : List (Value × Value))
  | callable (f : Callable Value)
  | rule (test : Callable Value) (message : String)

instance : Inhabited Value := ⟨.null⟩

/-- The sorts of value, as messages name them. -/
inductive Kind where
  | null | bool | int | float | text | list | tuple | set | day | moment | dict | callable | rule
deriving DecidableEq, Repr

/-- The name of a sort of value in messages. -/
def Kind.name : Kind → String
  | .null => "NoneType"
  | .bool => "bool"
  | .int => "int"
  | .float => "float"
  | .text => "str"
  | .list => "list"
  | .tuple => "tuple"
  | .set => "set"
  | .day => "datetime.date"
  | .moment => "datetime.datetime"
  | .dict => "dict"
  | .callable => "function"
  | .rule => "CustomRule"

namespace Value

/-- The sort of a value. -/
def kind : Value → Kind
  | .null => .null
  | .bool _ => .bool
  | .int _ => .int
  | .float _ => .float
  | .text _ => .text
  | .list _ => .list
  | .tuple _ => .tuple
  | .set _ => .set
  | .day _ => .day
  | .moment _ => .moment
  | .dict _ => .dict
  | .callable _ => .callable
  | .rule .. => .rule

/-- Does the value count as true?  Nothing, zeros and whatever is empty do not. -/
def truthy : Value → Bool
  | .null => false
  | .bool b => b
  | .int n => n != 0
  | .float x => !x.isZero
  | .text s => !s.isEmpty
  | .list items | .tuple items | .set items => !items.isEmpty
  | .dict entries => !entries.isEmpty
  | .day _ | .moment _ | .callable _ | .rule .. => true

/-- The items of a list or tuple. -/
def sequence? : Value → Option (List Value)
  | .list items | .tuple items => some items
  | _ => none

end Value

end Intake
