import Intake.Definition.Names
import Intake.Form.Report

/-!
# Looking things up by name

What a form can name is also open to the host: predicates, makers of rules, cleaners and sorts
of field.  Here a name that stands for nothing is a fault.
-/

namespace Intake

/-- The sort of field that a value names. -/
def FieldType.named? (name : Value) : Except Fault FieldType :=
  let unknown := do
    throw (.badValue ((← name.shown?) ++ " is not a valid FieldType"))
  match name with
  | .text s =>
    match ofName? s with
    | some t => .ok t
    | none => unknown
  | _ => unknown

/-- The cleaner with a name. -/
def Cleaner.named? (name : String) : Except Fault Cleaner :=
  match ofName? name with
  | some c => .ok c
  | none => .error (.unknownName ("Unknown sanitizer '" ++ name ++ "'. Known sanitizers: " ++
      shownNames (all.map Cleaner.name)))

/-- The maker of rules with a name. -/
def RuleMaker.named? (name : String) : Except Fault RuleMaker :=
  match ofName? name with
  | some m => .ok m
  | none => .error (.unknownName ("Unknown custom rule '" ++ name ++ "'. Known rules: " ++
      shownNames (all.map RuleMaker.name)))

namespace Predicate

/-- A predicate that needs an argument. -/
def withArgument? (name parameter : String) (make : Value → Predicate Value) :
    Option Value → Except Fault (Predicate Value)
  | some arg => .ok (make arg)
  | none => .error (.badCall (name ++ "() missing 1 required positional argument: '" ++
      parameter ++ "'"))

/-- A predicate that takes no argument. -/
def withoutArgument? (name : String) (p : Predicate Value) :
    Option Value → Except Fault (Predicate Value)
  | none => .ok p
  | some _ => .error (.badCall (name ++ "() takes 0 positional arguments but 1 was given"))

/-- The predicate with a name, for an argument if it needs one. -/
def named? (name : String) (arg : Option Value) : Except Fault (Predicate Value) :=
  match name with
  | "equals" => withArgument? name "expected" .equals arg
  | "contains" => withArgument? name "item" .contains arg
  | "is_truthy" => withoutArgument? name .isTruthy arg
  | "not_empty" => withoutArgument? name .notEmpty arg
  | _ => .error (.unknownName name)

end Predicate

/-- Reads a sort of finding. -/
def readFindingKind (v : Value) : Reading FindingKind :=
  let unknown := .bad (.noneOf (FindingKind.all.map FindingKind.name))
  match v with
  | .text s =>
    match FindingKind.ofName? s with
    | some k => .good k
    | none => unknown
  | _ => unknown

/-- Reads a finding. -/
def readFinding (r : List (Value × Value)) : Reading Finding :=
  Finding.mk <$> readPart r ["field"] readText <*> readPart r ["message"] readText
    <*> readPartOr r ["kind"] .field readFindingKind

end Intake
