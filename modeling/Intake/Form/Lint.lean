import Intake.Form.Basic

/-!
# Lint

Mistakes in a list of fields that would otherwise go unnoticed: a condition on a field that is
not there never holds, so the field that has it stays hidden for ever.

`lint` finds them, first repeated names, then field by field what is wrong with its condition
or fallback and with its derivation.
-/

namespace Intake

/-- A mistake in a list of fields. -/
inductive LintProblem where
  | repeatedName (name : String)
  | conditionOnItself (name : String)
  | conditionOnUnknown (name field : String)
  | idleFallback (name : String)
  | derivedNotNumber (name : String)
  | derivedFromUnknown (name source : String)
  | derivedFromNoList (name source : String)
deriving DecidableEq, Repr

/-- The wording of a mistake. -/
def LintProblem.message : LintProblem → String
  | .repeatedName name => "duplicate field name '" ++ name ++ "'"
  | .conditionOnItself name => "'" ++ name ++ "' is conditional on itself"
  | .conditionOnUnknown name field =>
    "'" ++ name ++ "' is conditional on unknown field '" ++ field ++ "'"
  | .idleFallback name => "'" ++ name ++ "' declares a fallback but is not conditional"
  | .derivedNotNumber name => "'" ++ name ++ "' is derived but is not a number field"
  | .derivedFromUnknown name source =>
    "'" ++ name ++ "' is derived from unknown field '" ++ source ++ "'"
  | .derivedFromNoList name source =>
    "'" ++ name ++ "' counts '" ++ source ++ "', which is not a list field"

/-- Every name that has occurred before, once for each time it occurs again. -/
def lintNames (before : List String) : List Field → List LintProblem
  | [] => []
  | d :: rest =>
    (if before.contains d.name then [.repeatedName d.name] else []) ++
      lintNames (d.name :: before) rest

/-- The last field with a name. -/
def lastNamed? (fields : List Field) (name : String) : Option Field :=
  fields.reverse.find? fun d => d.name = name

/-- What is wrong with a clause. -/
def Clause.lint (fields : List Field) (name : String) (c : Clause) : List LintProblem :=
  if c.field = name then [.conditionOnItself name]
  else if (fieldNames fields).contains c.field then []
  else [.conditionOnUnknown name c.field]

/-- What is wrong with the condition of a field, or with its fallback if it has none. -/
def Field.lintCondition (fields : List Field) (d : Field) : List LintProblem :=
  match d.condition with
  | some c =>
    c.clause.lint fields d.name ++ (c.second.toList.flatMap (Clause.lint fields d.name))
  | none =>
    match d.fallback with
    | .null => []
    | _ => [.idleFallback d.name]

/-- What is wrong with the derivation of a field. -/
def Field.lintDerivation (fields : List Field) (d : Field) : List LintProblem :=
  match d.derivation with
  | none => []
  | some derivation =>
    (if d.type = .number then [] else [.derivedNotNumber d.name]) ++
      match lastNamed? fields derivation.source with
      | none => [.derivedFromUnknown d.name derivation.source]
      | some source =>
        if source.type.isListLike then [] else [.derivedFromNoList d.name derivation.source]

/-- The mistakes in a list of fields. -/
def lint (fields : List Field) : List LintProblem :=
  lintNames [] fields ++
    fields.flatMap fun d => d.lintCondition fields ++ d.lintDerivation fields

end Intake
