import Intake.Pattern.Match
import Intake.Value.Shown

/-!
# Forms

A form is a named list of fields.  A **field** says what sort of value it holds, whether the
value is required, and how it depends on other fields:

* its **constraints** bound the value, may give a pattern, and may add a rule of the form's own;
* its **condition** makes it visible only while one or two other fields have certain values;
* its **derivation** computes it from another field;
* its **fallback** is written when it is visible and still unset.

In a `Form` no two fields have one name.  Most operations work on any list of fields, so that a
list that breaks this can be examined too.
-/

namespace Intake

/-- The sorts of field. -/
inductive FieldType where
  | text | textarea | email | url | number | select | multiSelect | checkbox | date | password
  | multiValue
deriving DecidableEq, Repr

namespace FieldType

/-- All sorts of field, in the order in which messages list them. -/
def all : List FieldType :=
  [.text, .textarea, .email, .url, .number, .select, .multiSelect, .checkbox, .date, .password,
   .multiValue]

/-- The name of a sort of field. -/
def name : FieldType → String
  | .text => "text"
  | .textarea => "textarea"
  | .email => "email"
  | .url => "url"
  | .number => "number"
  | .select => "select"
  | .multiSelect => "multiSelect"
  | .checkbox => "checkbox"
  | .date => "date"
  | .password => "password"
  | .multiValue => "multiValue"

/-- The sort of field with a name. -/
def ofName? (s : String) : Option FieldType :=
  all.find? fun t => t.name = s

/-- Does such a field hold a text whose length can be bounded? -/
def isTextLike : FieldType → Bool
  | .text | .textarea | .email | .url | .select | .password => true
  | _ => false

/-- Does such a field hold a list of texts? -/
def isListLike : FieldType → Bool
  | .multiSelect | .multiValue => true
  | _ => false

end FieldType

/-- A bound on a number. -/
inductive Bound where
  | int (n : Int)
  | float (x : Binary64)
deriving DecidableEq, Repr

namespace Bound

/-- A bound as a value. -/
def toValue : Bound → Value
  | .int n => .int n
  | .float x => .float x

/-- Is the first bound greater than the second? -/
def exceeds : Bound → Bound → Bool
  | .int a, .int b => b < a
  | .int a, .float y => y.compareInt? a == some .lt
  | .float x, .int b => x.compareInt? b == some .gt
  | .float x, .float y => x.compare? y == some .gt

/-- The bound as text. -/
def text? (b : Bound) : Except Fault String := b.toValue.shown?

end Bound

/-- One choice of a field. -/
structure Choice where
  label : String
  value : String
deriving DecidableEq, Repr

/-- The demand that a controlling field equals a literal, or that a function holds of it. -/
structure Clause where
  field : String
  expected : Value

/-- When a field is visible: while its clause and perhaps a second one hold.  It can be
required just then. -/
structure Condition where
  clause : Clause
  required : Bool
  second : Option Clause

/-- A rule of the form's own, with the message for values that break it. -/
structure OwnRule where
  test : Callable Value
  message : String

/-- What the value of a field has to obey. -/
structure Constraints where
  minLength : Option Int := none
  maxLength : Option Int := none
  minValue : Option Bound := none
  maxValue : Option Bound := none
  pattern : Option TextPattern := none
  minItems : Option Int := none
  maxItems : Option Int := none
  own : Option OwnRule := none
  message : Option String := none

/-- A field that holds the number of items of another one. -/
structure Derivation where
  source : String
deriving DecidableEq, Repr

/-- A field of a form.  `preset` and `fallback` are nothing where the field has none. -/
structure Field where
  name : String
  type : FieldType
  label : Option String := none
  required : Bool := false
  constraints : Constraints := {}
  condition : Option Condition := none
  preset : Value := .null
  choices : List Choice := []
  fallback : Value := .null
  derivation : Option Derivation := none
  placeholder : Option String := none
  help : Option String := none
  cleaner : Option (Callable Value) := none

/-- The names of some fields, in order. -/
def fieldNames (fields : List Field) : List String := fields.map Field.name

/-- A named list of fields, no two of one name. -/
structure Form where
  name : String
  fields : List Field
  distinct : (fieldNames fields).Nodup

namespace Form

/-- The names of the fields, in order. -/
def names (f : Form) : List String := fieldNames f.fields

/-- The field with a name. -/
def field? (f : Form) (name : String) : Option Field :=
  f.fields.find? fun d => d.name = name

end Form

/-- The names that occur more than once, each once, in the order in which they occur first. -/
def repeatedNames (names : List String) : List String :=
  names.eraseDups.filter fun n => 1 < names.count n

/-- Names that all differ have none that is repeated, and the other way round. -/
theorem repeatedNames_eq_nil_iff (names : List String) :
    repeatedNames names = [] ↔ names.Nodup := by
  unfold repeatedNames
  rw [List.filter_eq_nil_iff, List.nodup_iff_count]
  constructor
  · intro h a
    by_cases hm : a ∈ names
    · have := h a (List.mem_eraseDups.2 hm)
      simpa using this
    · rw [List.count_eq_zero.2 hm]; omega
  · intro h a _
    simpa using h a

end Intake
