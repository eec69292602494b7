import Intake.Form.Basic
import Intake.Form.Host
import Intake.Form.OwnRule
import Intake.Text.Blank

/-!
# Conditions

When a field is relevant for the answers given so far.  `Field.isShown` is the only place that
decides it: visibility, validation, cleaning and the check across fields all ask it.

A literal is compared by `Value.strictEqv`, in which a truth value never equals a number.  A
function that fails counts as a condition that does not hold, so its field is hidden; only where
its fault has no wording does the fault go on.

What may fail has a question mark: `Field.isShown?` is asked while answers are worked on, and
`Field.isShown` says whether it came out as yes.
-/

namespace Intake

/-- Did a question come out as yes? -/
def saidYes : Except Fault Bool → Bool
  | .ok b => b
  | .error _ => false

/-- The items of which a question comes out as yes. -/
def chosen? {α : Type} (ask : α → Except Fault Bool) : List α → Except Fault (List α)
  | [] => .ok []
  | a :: rest => do
    let here ← ask a
    let others ← chosen? ask rest
    return if here then a :: others else others

namespace Callable

/-- What the function gives for a value and all answers. -/
def decide? (host : Host) (value : Value) (answers : Answers) :
    Callable Value → Except Fault Bool
  | .predicate p _ => p.holds? value
  | .test t _ => t.passes? value answers
  | .host name => host.decide name value answers
  | .cleaner _ => .error (.badCall "takes 1 positional argument but 2 were given")

/-- Is what the function gave yes or no? -/
def read? (host : Host) (value : Value) (answers : Answers) (given : Bool) :
    Callable Value → Except Fault Bool
  | .host name =>
    match host.vague name value answers with
    | some f => .error f
    | none => .ok given
  | _ => .ok given

/-- Does the function hold of a value and all answers? -/
def holds? (host : Host) (value : Value) (answers : Answers) (f : Callable Value) :
    Except Fault Bool := do
  f.read? host value answers (← f.decide? host value answers)

end Callable

/-- Does the clause hold for the answers? -/
def Clause.holds? (host : Host) (answers : Answers) (c : Clause) : Except Fault Bool :=
  match c.expected with
  | .callable f =>
    match f.holds? host (answers.get c.field) answers with
    | .ok b => .ok b
    | .error fault => fault.passOver false
  | literal => .ok ((answers.get c.field).strictEqv literal)

/-- Does a clause hold, if there is one? -/
def Clause.allHold? (host : Host) (answers : Answers) : Option Clause → Except Fault Bool
  | none => .ok true
  | some c => c.holds? host answers

/-- Do the clauses of the condition hold?  The second is asked about only if the first holds. -/
def Condition.holds? (host : Host) (answers : Answers) (c : Condition) : Except Fault Bool := do
  if ← c.clause.holds? host answers then Clause.allHold? host answers c.second else return false

/-- Is the field visible, and its value of any account? -/
def Field.isShown? (host : Host) (answers : Answers) (d : Field) : Except Fault Bool :=
  match d.condition with
  | none => .ok true
  | some c => c.holds? host answers

/-- Is the field visible by its condition, and required while it is? -/
def Field.isRequiredNow? (host : Host) (answers : Answers) (d : Field) : Except Fault Bool :=
  match d.condition with
  | none => .ok false
  | some c => if c.required then c.holds? host answers else .ok false

/-- The names of the visible fields, in order. -/
def visibleNames? (host : Host) (fields : List Field) (answers : Answers) :
    Except Fault (List String) :=
  (chosen? (Field.isShown? host answers) fields).map fieldNames

/-- Does the clause come out as holding? -/
def Clause.holds (host : Host) (answers : Answers) (c : Clause) : Bool :=
  saidYes (c.holds? host answers)

/-- Do the clauses of the condition come out as holding? -/
def Condition.holds (host : Host) (answers : Answers) (c : Condition) : Bool :=
  saidYes (c.holds? host answers)

/-- Does the field come out as visible? -/
def Field.isShown (host : Host) (answers : Answers) (d : Field) : Bool :=
  saidYes (d.isShown? host answers)

/-- Does the field come out as visible by its condition, and required while it is? -/
def Field.isRequiredNow (host : Host) (answers : Answers) (d : Field) : Bool :=
  saidYes (d.isRequiredNow? host answers)

/-- The names of the fields that come out as visible, in order. -/
def visibleNames (host : Host) (fields : List Field) (answers : Answers) : List String :=
  fieldNames (fields.filter (Field.isShown host answers))

end Intake
