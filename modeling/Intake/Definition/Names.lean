import Intake.Definition.Fields
import Intake.Definition.RuleMaker
import Intake.Form.Cleaning

/-!
# Names in forms

Functions cannot be written in data, so a form names them: a predicate in a clause, a maker of
rules in a block of constraints, a cleaner in a field.  Before a field is read, the names in it
are replaced by what they stand for.

`resolveField?` does that.  It stops at the first name that stands for nothing.
-/

namespace Intake

/-- Why the data of a form was refused before it was read. -/
inductive DefinitionError where
  | notRecord (source : String)
  | noFields (source : String)
  | fieldsNotList (source : String)
  | fieldNotRecord (index : Nat)
  | unknownPredicate (place name : String)
  | noArgument (place name : String)
  | unnamedRule (place : String)
  | unknownRule (place name : String)
  | paramsNotRecord (place : String)
  | badParameters (place name problem : String)
  | unknownCleaner (place name : String)
  | misfit (source : String) (m : Misfit)
  | invalid (source : String)
  | noFile (path : String)
  | badYaml
  | emptyFile (path : String)

/-- Names in order, between brackets and quotes. -/
def shownNames (names : List String) : String :=
  "[" ++ ", ".intercalate (names.map Text.quoted) ++ "]"

/-- The names of the predicates. -/
def predicateNames : List String := ["contains", "equals", "is_truthy", "not_empty"]

/-- The wording of a refusal. -/
def DefinitionError.message : DefinitionError → String
  | .notRecord source => "Form definition in " ++ source ++ " must be a mapping"
  | .noFields source => "Form definition in " ++ source ++ " must contain 'fields' key"
  | .fieldsNotList source => "Form definition 'fields' in " ++ source ++ " must be a list"
  | .fieldNotRecord index => "fields[" ++ toString index ++ "] must be a mapping"
  | .unknownPredicate place name =>
    place ++ ": unknown predicate '" ++ name ++ "'. Known predicates: " ++
      shownNames predicateNames
  | .noArgument place name => place ++ ": predicate '" ++ name ++ "' requires an 'arg'"
  | .unnamedRule place => place ++ ": custom rule must name a 'rule'"
  | .unknownRule place name =>
    place ++ ": unknown custom rule '" ++ name ++ "'. Known rules: " ++
      shownNames (RuleMaker.all.map RuleMaker.name)
  | .paramsNotRecord place => place ++ ": custom rule 'params' must be a mapping"
  | .badParameters place name problem =>
    place ++ ": bad params for custom rule '" ++ name ++ "': " ++ problem
  | .unknownCleaner place name =>
    place ++ ": unknown sanitizer '" ++ name ++ "'. Known sanitizers: " ++
      shownNames (Cleaner.all.map Cleaner.name)
  | .misfit source m => "Invalid form definition in " ++ source ++ ": " ++ m.message
  | .invalid source => "Invalid form definition in " ++ source
  | .noFile path => "Form definition file not found: " ++ path
  | .badYaml => "Invalid YAML in form definition file"
  | .emptyFile path => "Form definition file is empty: " ++ path

/-- Why data gave no form: it was refused, perhaps with issues, or a part of it had issues of its
own, or there was a fault. -/
inductive LoadError where
  | refused (e : DefinitionError) (issues : List Issue)
  | issues (issues : List Issue)
  | fault (f : Fault)

/-- Loading, which may fail. -/
abbrev Load := Except LoadError

/-- Refuses data. -/
def refuse {α : Type} (e : DefinitionError) : Load α := .error (.refused e [])

/-- Stops with a fault if there is one. -/
def orFault {α : Type} (x : Except Fault α) : Load α := x.mapError .fault

/-- Stops if a value cannot be a name. -/
def guardName (name : Value) : Load Unit :=
  match name.unhashable? with
  | some kind => .error (.fault (.unhashable kind))
  | none => .ok ()

/-- The value of a record with one entry replaced. -/
def withEntry (key : String) (value : Value) (record : List (Value × Value)) :
    List (Value × Value) :=
  Value.setEntry (.text key) value record

/-- The value under a key of a record, if it is a record itself. -/
def recordAt? (key : String) (record : List (Value × Value)) : Option (List (Value × Value)) :=
  match Value.lookupEntry (.text key) record with
  | some (.dict entries) => some entries
  | _ => none

/-- The predicate that a record names. -/
def namedPredicate? (place : String) (named : List (Value × Value)) (name : Value) :
    Load (Predicate Value) := do
  guardName name
  let shown ← orFault name.text?
  let argument (make : Value → Predicate Value) : Load (Predicate Value) :=
    match Value.lookupEntry (.text "arg") named with
    | some arg => .ok (make arg)
    | none => refuse (.noArgument place shown)
  match name with
  | .text "equals" => argument .equals
  | .text "contains" => argument .contains
  | .text "is_truthy" => return .isTruthy
  | .text "not_empty" => return .notEmpty
  | _ => refuse (.unknownPredicate place shown)

/-- A clause with the predicate it names in its place. -/
def resolveClause? (identity : Identity) (place : String) (clause : List (Value × Value)) :
    Load (List (Value × Value)) := do
  match recordAt? "value" clause with
  | none => return clause
  | some named =>
    match Value.lookupEntry (.text "predicate") named with
    | none => return clause
    | some name =>
      let p ← namedPredicate? place named name
      let _ ← orFault (Value.predicateName? p)
      return withEntry "value" (.callable (.predicate p identity)) clause

/-- A condition with the predicates that its clauses name in their places. -/
def resolveCondition? (origin : Origin) (index : Nat) (place : String)
    (condition : List (Value × Value)) : Load (List (Value × Value)) := do
  let resolved ← resolveClause? ⟨origin, index, .condition⟩ place condition
  ["and", "and_"].foldlM (fun resolved key => do
    match recordAt? key resolved with
    | none => return resolved
    | some second =>
      let second ← resolveClause? ⟨origin, index, .second⟩ (place ++ ".and") second
      return withEntry key (.dict second) resolved) resolved

/-- The rule that a record names. -/
def resolveRule? (identity : Identity) (place : String) (named : List (Value × Value)) :
    Load Value := do
  match Value.lookupEntry (.text "rule") named with
  | none => refuse (.unnamedRule place)
  | some name =>
    guardName name
    let shown ← orFault name.text?
    let maker? : Option RuleMaker :=
      match name with
      | .text s => RuleMaker.ofName? s
      | _ => none
    match maker? with
    | none => refuse (.unknownRule place shown)
    | some maker =>
      let params := (Value.lookupEntry (.text "params") named).getD .null
      let entries ←
        match if params.truthy then params else .dict [] with
        | .dict entries => .ok entries
        | _ => refuse (.paramsNotRecord place)
      let message := (Value.lookupEntry (.text "message") named).getD .null
      match maker.makeWithMessage? entries message with
      | .ok (test, message) => return .rule (.test test identity) message
      | .error (.badParameters problem) => refuse (.badParameters place shown problem)
      | .error .badMessage => .error (.issues [⟨[.key "message"], .notText⟩])
      | .error (.fault f) => .error (.fault f)

/-- A field's record with its condition resolved. -/
def resolveFieldCondition? (origin : Origin) (index : Nat) (place : String)
    (record : List (Value × Value)) : Load (List (Value × Value)) := do
  match recordAt? "conditional" record with
  | none => return record
  | some condition =>
    let resolved ← resolveCondition? origin index (place ++ ".conditional") condition
    return withEntry "conditional" (.dict resolved) record

/-- A field's record with its own rule made. -/
def resolveFieldRule? (origin : Origin) (index : Nat) (place : String)
    (record : List (Value × Value)) : Load (List (Value × Value)) := do
  match recordAt? "validation" record with
  | none => return record
  | some constraints =>
    match recordAt? "custom" constraints with
    | none => return record
    | some named =>
      let rule ← resolveRule? ⟨origin, index, .rule⟩ (place ++ ".validation.custom") named
      return withEntry "validation" (.dict (withEntry "custom" rule constraints)) record

/-- A field's record with its cleaner found. -/
def resolveFieldCleaner? (place : String) (record : List (Value × Value)) :
    Load (List (Value × Value)) :=
  match Value.lookupEntry (.text "sanitizer") record with
  | some (.text name) =>
    match Cleaner.ofName? name with
    | some c => .ok (withEntry "sanitizer" (.callable (.cleaner c)) record)
    | none => refuse (.unknownCleaner place name)
  | _ => .ok record

/-- The data of the field at an index with the names in it replaced. -/
def resolveField? (origin : Origin) (index : Nat) (data : Value) : Load Value := do
  match data with
  | .dict record =>
    let name ← orFault ((Value.lookupEntry (.text "name") record).getD (.text "?")).text?
    let place := "fields[" ++ toString index ++ "] (" ++ name ++ ")"
    let record ← resolveFieldCondition? origin index place record
    let record ← resolveFieldRule? origin index place record
    let record ← resolveFieldCleaner? place record
    return .dict record
  | _ => refuse (.fieldNotRecord index)

end Intake
