import Intake.Form.Misfit
import Intake.Form.Record
import Intake.Form.Report
import Intake.Schema.Rule
import Intake.Text.Digest
import Intake.Value.Canonical

/-!
# Schemas

A schema checks all answers of a form.  It holds the rules of every field, in the order of the
fields, and the **fingerprint** of the fields it was made of, by which a cache knows it again.

For each field the first thing that is wrong is reported.  A hidden field is exempt from
everything, and a field without a value is only asked for one if it is required, so a value is
never measured against a rule that does not suit its sort.

* `Schema.compile` makes a schema, unless two fields share a name;
* `Schema.check?` checks all answers, `Schema.checkField?` those of one field;
* `crossCheck?` looks for conditional fields alone that are required and empty.
-/

namespace Intake

/-- A field with its rules. -/
structure FieldCheck where
  field : Field
  rules : List Rule

/-- The check of a field. -/
def Field.check (d : Field) : FieldCheck := ⟨d, d.rules⟩

/-- What the first rule says that a value breaks. -/
def firstBroken? (host : Host) (value : Value) (answers : Answers) :
    List Rule → Except Fault (Option String)
  | [] => .ok none
  | r :: rest => do
    match ← r.check? host value answers with
    | some message => return some message
    | none => firstBroken? host value answers rest

namespace FieldCheck

/-- What is said about a visible field without a value. -/
def demand? (host : Host) (answers : Answers) (d : Field) : Except Fault (Option String) := do
  if d.condition.isSome then
    return if ← d.isRequiredNow? host answers then some Wording.requiredNow else none
  else return if d.required then some Wording.required else none

/-- The first thing wrong with a value of the field, given all answers. -/
def run? (host : Host) (value : Value) (answers : Answers) (c : FieldCheck) :
    Except Fault (Option String) := do
  if !(← c.field.isShown? host answers) then return none
  else if value.isEmpty then demand? host answers c.field
  else if !c.field.type.accepts value then return some c.field.type.refusal
  else firstBroken? host value answers c.rules

end FieldCheck

/-- What fields are compared by: the digest of all that is said about them. -/
def fingerprint? (fields : List Field) : Except Fault String :=
  (Value.list (fields.map Field.toValue)).canonical?.map Text.digest

/-- A schema. -/
structure Schema where
  checks : List FieldCheck
  fingerprint : String

/-- Why no schema can be made of some fields. -/
inductive SchemaError where
  | misfit (m : Misfit)
  | fault (f : Fault)

namespace Schema

/-- The schema of some fields. -/
def compile (fields : List Field) : Except SchemaError Schema := do
  (requireDistinct fields).mapError .misfit
  let fingerprint ← (fingerprint? fields).mapError .fault
  return ⟨fields.map Field.check, fingerprint⟩

/-- The names of the fields, in order. -/
def names (s : Schema) : List String := s.checks.map fun c => c.field.name

/-- The first thing wrong with the answer for a field. -/
def checkField? (host : Host) (s : Schema) (name : String) (answers : Answers) :
    Except Fault (Option String) :=
  match s.checks.find? fun c => c.field.name = name with
  | some c => c.run? host (answers.get name) answers
  | none => .ok none

/-- The finding for one field. -/
def finding? (host : Host) (answers : Answers) (c : FieldCheck) :
    Except Fault (Option Finding) :=
  (c.run? host (answers.get c.field.name) answers).map fun message =>
    message.map fun m => { field := c.field.name, message := m }

/-- Checks all answers. -/
def check? (host : Host) (s : Schema) (answers : Answers) : Except Fault Report := do
  let findings ← s.checks.mapM (finding? host answers)
  return ⟨findings.filterMap id⟩

end Schema

/-- Is a field without a value that its condition requires now? -/
def Field.isMissing? (host : Host) (answers : Answers) (d : Field) : Except Fault Bool :=
  (d.isRequiredNow? host answers).map fun now => now && (answers.get d.name).isEmpty

/-- Some fields, each once, with the message for a conditional field that is required. -/
def demands (missing : List Field) : List (String × String) :=
  (fieldNames missing).eraseDups.map fun name => (name, Wording.requiredNow)

/-- The conditional fields that are required now and have no value, each once, with the
message for it. -/
def crossCheck? (host : Host) (fields : List Field) (answers : Answers) :
    Except Fault (List (String × String)) :=
  (chosen? (Field.isMissing? host answers) fields).map demands

/-- What the check across fields comes to. -/
def crossCheck (host : Host) (fields : List Field) (answers : Answers) :
    List (String × String) :=
  demands (fields.filter fun d => d.isRequiredNow host answers && (answers.get d.name).isEmpty)

/-- What the check across fields found, as findings. -/
def crossFindings (missing : List (String × String)) : List Finding :=
  missing.map fun e => { field := e.1, message := e.2, kind := .crossField }

end Intake
