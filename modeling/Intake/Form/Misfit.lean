import Intake.Form.Lint

/-!
# Lists of fields that make no form

A list of fields is refused when two fields share a name, or, under a strict lint, when it
has any mistake at all.
-/

namespace Intake

/-- Why a list of fields makes no form. -/
inductive Misfit where
  | repeatedNames (names : List String)
  | mistakes (problems : List LintProblem)
deriving DecidableEq, Repr

namespace Misfit

/-- What is wrong, one item for each thing. -/
def problems : Misfit → List String
  | .repeatedNames names => names.map fun n => (LintProblem.repeatedName n).message
  | .mistakes problems => problems.map LintProblem.message

/-- What is wrong, in one line. -/
def message : Misfit → String
  | .repeatedNames names => "Duplicate field names in descriptor list: " ++ ", ".intercalate names
  | .mistakes problems =>
    "Descriptor list has " ++ toString problems.length ++ " problem(s): " ++
      "; ".intercalate (problems.map LintProblem.message)

end Misfit

/-- Refuses fields that share a name. -/
def requireDistinct (fields : List Field) : Except Misfit Unit :=
  match repeatedNames (fieldNames fields) with
  | [] => .ok ()
  | names => .error (.repeatedNames names)

/-- The form with a name and some fields, unless two of them share a name. -/
def Form.of? (name : String) (fields : List Field) : Except Misfit Form :=
  match h : repeatedNames (fieldNames fields) with
  | [] => .ok ⟨name, fields, (repeatedNames_eq_nil_iff _).1 h⟩
  | names => .error (.repeatedNames names)

/-- The mistakes in a list of fields; under a strict lint they are refused. -/
def checkFields (strict : Bool) (fields : List Field) : Except Misfit (List LintProblem) :=
  let problems := lint fields
  if strict && !problems.isEmpty then .error (.mistakes problems) else .ok problems

end Intake
