import Intake.DateEntry
import Intake.Form.Condition
import Intake.Form.Wording
import Intake.Net.Mailbox
import Intake.Net.WebAddress

/-!
# Rules of a field

A value that is not empty has to be of its field's sort (`FieldType.accepts`) and to obey the
field's rules.  `Field.rules` lists them in the order in which they are tried: the lower bound,
the upper bound, the pattern, and the form's own rule.

On a list, bounds on the length count items, unless there are bounds on the items themselves.
-/

namespace Intake

/-- Is every item of a list or tuple a text? -/
def Value.isTextList (v : Value) : Bool :=
  match v.sequence? with
  | some items => items.all fun
    | .text _ => true
    | _ => false
  | none => false

namespace FieldType

/-- Is a value that is not empty of the field's sort? -/
def accepts : FieldType → Value → Bool
  | .text, .text _ | .textarea, .text _ | .select, .text _ | .password, .text _ => true
  | .email, .text s => Net.isMailAddress (Text.strip s)
  | .url, .text s => (WebAddress.read? (Text.strip s)).isSome
  | .number, v => v.amount?.isSome
  | .checkbox, .bool _ => true
  | .multiSelect, v | .multiValue, v => v.isTextList
  | .date, v => v.day?.isSome
  | _, _ => false

/-- The message for a value that is not of the field's sort. -/
def refusal : FieldType → String
  | .text | .textarea | .select | .password => Wording.invalidText
  | .email => Wording.invalidEmail
  | .url => Wording.invalidUrl
  | .number => Wording.invalidNumber
  | .checkbox => Wording.invalidBoolean
  | .multiSelect | .multiValue => Wording.invalidList
  | .date => Wording.invalidDate

end FieldType

/-- A rule for the value of a field. -/
inductive Rule where
  | minLength (n : Int)
  | maxLength (n : Int)
  | pattern (p : TextPattern) (message : String)
  | minValue (b : Bound)
  | maxValue (b : Bound)
  | minItems (n : Int)
  | maxItems (n : Int)
  | own (rule : OwnRule)

/-- The order of an amount and a bound. -/
def Bound.compareAmount? (x : Binary64) : Bound → Option Ordering
  | .int n => x.compareInt? n
  | .float y => x.compare? y

/-- The order of a value and a bound. -/
def Bound.compareValue? (v : Value) (b : Bound) : Option Ordering :=
  v.amount?.bind fun x => b.compareAmount? x

/-- The number of characters of a text without the blanks around it. -/
def Value.strippedLength (v : Value) : Nat :=
  match v with
  | .text s => (Text.strip s).length
  | _ => 0

/-- Does the pattern match in a text without the blanks around it? -/
def TextPattern.fits (p : TextPattern) (v : Value) : Bool :=
  match v with
  | .text s => p.occursIn (Text.strip s)
  | _ => false

/-- Does a value pass the form's own rule?  A rule that fails counts as one that is broken, but
what a rule gave is asked whether it is yes or no when it can no longer fail. -/
def OwnRule.passes? (host : Host) (value : Value) (answers : Answers) (r : OwnRule) :
    Except Fault Bool :=
  match r.test.decide? host value answers with
  | .ok b => r.test.read? host value answers b
  | .error f => f.passOver false

/-- Does a value come out as passing the form's own rule? -/
def OwnRule.passes (host : Host) (value : Value) (answers : Answers) (r : OwnRule) : Bool :=
  saidYes (r.passes? host value answers)

namespace Rule

/-- Does a value obey the rule, given all answers? -/
def obeyed? (host : Host) (value : Value) (answers : Answers) : Rule → Except Fault Bool
  | .minLength n => .ok !(value.strippedLength < n)
  | .maxLength n => .ok !(n < value.strippedLength)
  | .pattern p _ => .ok (p.fits value)
  | .minValue b => .ok (b.compareValue? value != some .lt)
  | .maxValue b => .ok (b.compareValue? value != some .gt)
  | .minItems n => .ok !(value.itemCount < n)
  | .maxItems n => .ok !(n < value.itemCount)
  | .own r => r.passes? host value answers

/-- Does a value come out as obeying the rule? -/
def obeyed (host : Host) (value : Value) (answers : Answers) (r : Rule) : Bool :=
  saidYes (r.obeyed? host value answers)

/-- The message for a value that does not obey the rule. -/
def message? : Rule → Except Fault String
  | .minLength n => Wording.minLength? (.int n)
  | .maxLength n => Wording.maxLength? (.int n)
  | .pattern _ message => .ok message
  | .minValue b => Wording.minValue? b
  | .maxValue b => Wording.maxValue? b
  | .minItems n => Wording.minItems? (.int n)
  | .maxItems n => Wording.maxItems? (.int n)
  | .own r => .ok r.message

/-- What the rule says against a value. -/
def check? (host : Host) (value : Value) (answers : Answers) (r : Rule) :
    Except Fault (Option String) := do
  if ← r.obeyed? host value answers then return none else r.message?.map some

end Rule

namespace Constraints

/-- The message of the pattern. -/
def patternMessage (c : Constraints) : String :=
  match c.message with
  | some m => if m.isEmpty then Wording.invalidFormat else m
  | none => Wording.invalidFormat

/-- The rules on the length and pattern of a text. -/
def textRules (c : Constraints) : List Rule :=
  c.minLength.toList.map .minLength ++ c.maxLength.toList.map .maxLength ++
    c.pattern.toList.map fun p => .pattern p c.patternMessage

/-- The rules on the amount of a number. -/
def numberRules (c : Constraints) : List Rule :=
  c.minValue.toList.map .minValue ++ c.maxValue.toList.map .maxValue

/-- The rules on the number of items of a list. -/
def listRules (c : Constraints) : List Rule :=
  (c.minItems.or c.minLength).toList.map .minItems ++
    (c.maxItems.or c.maxLength).toList.map .maxItems

/-- The rules for the values of a sort of field. -/
def rules (c : Constraints) (type : FieldType) : List Rule :=
  (if type = .number then c.numberRules
   else if type.isListLike then c.listRules
   else if type.isTextLike then c.textRules
   else []) ++ c.own.toList.map .own

end Constraints

/-- The rules of a field, in the order in which they are tried. -/
def Field.rules (d : Field) : List Rule := d.constraints.rules d.type

end Intake
