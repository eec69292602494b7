import Intake.Definition.Reading
import Intake.Form.Misfit
import Intake.Form.OwnRule

/-!
# Reading the fields of a form

Each part of a form is read from a record.  A key of two words can be spelled in two ways,
`minLength` and `min_length`; if both are there the first one counts.

After its parts have been read, a block of constraints is checked once more: no lower bound may
exceed the upper bound of the same sort.
-/

namespace Intake

/-- Reads a choice: a label and a value, or one text for both. -/
def readChoice : Value → Reading Choice
  | .text s => .good ⟨s, s⟩
  | v => readRecord "SelectOption" (fun r =>
      Choice.mk <$> readPart r ["label"] readText <*> readPart r ["value"] readText) v

/-- Reads choices from whatever has items. -/
def readChoices : Value → Reading (List Choice)
  | .null => .good []
  | v =>
    match v.items? with
    | .error f => .halt f
    | .ok items => readItems readChoice 0 items

/-- Reads a form's own rule. -/
def readOwnRule : Value → Reading OwnRule
  | .rule test message => .good ⟨test, message⟩
  | v => readRecord "CustomRule" (fun r =>
      OwnRule.mk <$> readPart r ["test"] readCallable <*> readPart r ["message"] readName) v

/-- Reads a pattern. -/
def readPattern (v : Value) : Reading TextPattern :=
  (readText v).andThen fun s =>
    match TextPattern.read s with
    | .ok p => .good p
    | .error .repetitionTooLarge => .halt .repetitionTooLarge
    | .error .charactersClash =>
      .bad (.refused (Pattern.PatternError.charactersClash.message s))
    | .error e => .bad (.refused ("Invalid regex pattern '" ++ s ++ "': " ++ e.message s))

/-- What is wrong with two bounds, if the lower one exceeds the upper one. -/
def wrongOrder? (lowName highName : String) (low high : Option Bound) : Option String :=
  match low, high with
  | some lo, some hi =>
    if lo.exceeds hi then
      match lo.text?, hi.text? with
      | .ok a, .ok b =>
        some (lowName ++ " (" ++ a ++ ") is greater than " ++ highName ++ " (" ++ b ++ ")")
      | .error f, _ => some f.message
      | _, .error f => some f.message
    else none
  | _, _ => none

/-- What is wrong with the order of the bounds. -/
def Constraints.disorder? (c : Constraints) : Option String :=
  (wrongOrder? "min_length" "max_length" (c.minLength.map .int) (c.maxLength.map .int)).or
    ((wrongOrder? "min_value" "max_value" c.minValue c.maxValue).or
      (wrongOrder? "min_items" "max_items" (c.minItems.map .int) (c.maxItems.map .int)))

/-- Reads the parts of a block of constraints. -/
def readConstraintParts (r : List (Value × Value)) : Reading Constraints :=
  let size := readOption (readIntegerFrom 0)
  let bound := readOption readBound
  Constraints.mk
    <$> readPartOr r ["minLength", "min_length"] none size
    <*> readPartOr r ["maxLength", "max_length"] none size
    <*> readPartOr r ["minValue", "min_value"] none bound
    <*> readPartOr r ["maxValue", "max_value"] none bound
    <*> readPartOr r ["pattern"] none (readOption readPattern)
    <*> readPartOr r ["minItems", "min_items"] none size
    <*> readPartOr r ["maxItems", "max_items"] none size
    <*> readPartOr r ["custom"] none (readOption readOwnRule)
    <*> readPartOr r ["message"] none (readOption readText)

/-- Reads a block of constraints; nothing stands for an empty one. -/
def readConstraints : Value → Reading Constraints
  | .null => .good {}
  | v => (readRecord "ValidationRules" readConstraintParts v).andThen fun c =>
      match c.disorder? with
      | some why => .bad (.refused why)
      | none => .good c

/-- Reads the parts of a clause. -/
def readClauseParts (r : List (Value × Value)) : Reading Clause :=
  Clause.mk <$> readPart r ["field"] readName <*> readPartOr r ["value"] .null readAny

/-- Reads a clause. -/
def readClause : Value → Reading Clause := readRecord "ConditionClause" readClauseParts

/-- Reads a condition. -/
def readCondition : Value → Reading Condition :=
  readRecord "ConditionalRule" fun r =>
    Condition.mk <$> readClauseParts r
      <*> readPartOr r ["required"] false readBoolean
      <*> readPartOr r ["and", "and_"] none (readOption readClause)

/-- Reads the word for counting. -/
def readUsing : Value → Reading Unit
  | .text s => if s = "length" then .good () else .bad (.not_ "length")
  | _ => .bad (.not_ "length")

/-- Reads a derivation. -/
def readDerivation : Value → Reading Derivation :=
  readRecord "DerivedValue" fun r =>
    (fun source _ => ⟨source⟩) <$> readPart r ["source"] readName
      <*> readPartOr r ["using"] () readUsing

/-- Reads a sort of field. -/
def readFieldType (v : Value) : Reading FieldType :=
  match v with
  | .text s =>
    match FieldType.ofName? s with
    | some t => .good t
    | none => .bad (.noneOf (FieldType.all.map FieldType.name))
  | _ => .bad (.noneOf (FieldType.all.map FieldType.name))

/-- Reads a field. -/
def readField : Value → Reading Field :=
  readRecord "FieldDescriptor" fun r =>
    Field.mk
      <$> readPart r ["name"] readName
      <*> readPart r ["type"] readFieldType
      <*> readPartOr r ["label"] none (readOption readText)
      <*> readPartOr r ["required"] false readBoolean
      <*> readPartOr r ["validation"] {} readConstraints
      <*> readPartOr r ["conditional"] none (readOption readCondition)
      <*> readPartOr r ["defaultValue", "default_value"] .null readAny
      <*> readPartOr r ["options"] [] readChoices
      <*> readPartOr r ["fallback"] .null readAny
      <*> readPartOr r ["derivedFrom", "derived_from"] none (readOption readDerivation)
      <*> readPartOr r ["placeholder"] none (readOption readText)
      <*> readPartOr r ["helpText", "help_text"] none (readOption readText)
      <*> readPartOr r ["sanitizer"] none (readOption readCallable)

/-- Reads the name and the fields of a form. -/
def readForm (name : Value) (fields : List Value) : Reading (String × List Field) :=
  Prod.mk <$> (readName name).under (.key "name")
    <*> (readItems readField 0 fields).under (.key "fields")

end Intake
