import Intake.Form.Basic

/-!
# Forms as values

A field spelled out as a value: a dictionary with an entry for everything that can be said
about a field, whether it has been said or not.
-/

namespace Intake

namespace Value

/-- A dictionary with texts as keys. -/
def record (entries : List (String × Value)) : Value :=
  .dict (entries.map fun e => (.text e.1, e.2))

/-- What is there, or nothing. -/
def ofOption {α : Type} (f : α → Value) : Option α → Value
  | some x => f x
  | none => .null

end Value

/-- A choice as a value. -/
def Choice.toValue (c : Choice) : Value :=
  .record [("label", .text c.label), ("value", .text c.value)]

/-- A clause as a value. -/
def Clause.toValue (c : Clause) : Value :=
  .record [("field", .text c.field), ("value", c.expected)]

/-- A condition as a value. -/
def Condition.toValue (c : Condition) : Value :=
  .record [("field", .text c.clause.field), ("value", c.clause.expected),
    ("required", .bool c.required), ("and_", .ofOption Clause.toValue c.second)]

/-- A form's own rule as a value. -/
def OwnRule.toValue (r : OwnRule) : Value :=
  .record [("test", .callable r.test), ("message", .text r.message)]

/-- Constraints as a value. -/
def Constraints.toValue (c : Constraints) : Value :=
  .record [("min_length", .ofOption .int c.minLength), ("max_length", .ofOption .int c.maxLength),
    ("min_value", .ofOption Bound.toValue c.minValue),
    ("max_value", .ofOption Bound.toValue c.maxValue),
    ("pattern", .ofOption (fun p => .text p.source) c.pattern),
    ("min_items", .ofOption .int c.minItems), ("max_items", .ofOption .int c.maxItems),
    ("custom", .ofOption OwnRule.toValue c.own), ("message", .ofOption .text c.message)]

/-- A derivation as a value. -/
def Derivation.toValue (d : Derivation) : Value :=
  .record [("source", .text d.source), ("using", .text "length")]

/-- A field as a value. -/
def Field.toValue (d : Field) : Value :=
  .record [("name", .text d.name), ("type", .text d.type.name),
    ("label", .ofOption .text d.label), ("required", .bool d.required),
    ("validation", d.constraints.toValue),
    ("conditional", .ofOption Condition.toValue d.condition),
    ("default_value", d.preset), ("options", .list (d.choices.map Choice.toValue)),
    ("fallback", d.fallback), ("derived_from", .ofOption Derivation.toValue d.derivation),
    ("placeholder", .ofOption .text d.placeholder), ("help_text", .ofOption .text d.help),
    ("sanitizer", .ofOption .callable d.cleaner)]

end Intake
