import Intake.Form.Cleaning

/-!
# Answers that depend on each other

Cleaned answers are brought into agreement field by field:

* a derived field is the number of items of its source;
* a hidden field is empty;
* a visible field that is unset takes its fallback.

One field can depend on another that depends on a third, so the fields are gone through until
nothing changes, though not more often than there are fields, and once more.

`sanitize` cleans the answers of a form and then reconciles them.
-/

namespace Intake

/-- Is the value empty, or the empty value of the field's sort? -/
def Field.isUnset (d : Field) (v : Value) : Bool :=
  v.isEmpty || v.strictEqv d.type.emptyValue

/-- Does the field have a fallback? -/
def Field.hasFallback (d : Field) : Bool :=
  match d.fallback with
  | .null => false
  | _ => true

/-- What the other answers make of a field, if they have a say in it. -/
def Field.settled? (host : Host) (answers : Answers) (d : Field) :
    Except Fault (Option Value) := do
  match d.derivation with
  | some derivation => return some (.int (answers.get derivation.source).itemCount)
  | none =>
    if d.condition.isNone then return none
    else if !(← d.isShown? host answers) then return some d.type.emptyValue
    else if d.hasFallback && d.isUnset (answers.get d.name) then
      (d.clean? host d.fallback).map some
    else return none

/-- Settles one field: the answers, and whether they changed. -/
def Field.settle (host : Host) (answers : Answers) (d : Field) :
    Except Fault (Answers × Bool) := do
  match ← d.settled? host answers with
  | none => return (answers, false)
  | some v =>
    if v.sameAs (answers.get d.name) then return (answers, false)
    else return (answers.set d.name v, true)

/-- Settles every field in turn: the answers, and whether they changed. -/
def settlePass (host : Host) (answers : Answers) : List Field → Except Fault (Answers × Bool)
  | [] => .ok (answers, false)
  | d :: rest => do
    let (answers, changed) ← d.settle host answers
    let (answers, changedLater) ← settlePass host answers rest
    return (answers, changed || changedLater)

/-- Settles the fields until nothing changes, `passes` times at most. -/
def settlePasses (host : Host) (fields : List Field) (passes : Nat) (answers : Answers) :
    Except Fault Answers :=
  match passes with
  | 0 => .ok answers
  | passes + 1 => do
    let (answers, changed) ← settlePass host answers fields
    if changed then settlePasses host fields passes answers else return answers

/-- Cleaned answers brought into agreement. -/
def reconcile (host : Host) (fields : List Field) (answers : Answers) : Except Fault Answers :=
  settlePasses host fields (fields.length + 1) answers

/-- The answers of the fields, each in the form of its field. -/
def cleanAll (host : Host) (answers : Answers) (fields : List Field) : Except Fault Answers := do
  let entries ← fields.mapM fun d => do
    return (d.name, ← d.clean? host (answers.get d.name))
  return Answers.ofEntries entries

/-- The answers of a form, cleaned and brought into agreement. -/
def sanitize (host : Host) (fields : List Field) (answers : Answers) : Except Fault Answers := do
  reconcile host fields (← cleanAll host answers fields)

end Intake
