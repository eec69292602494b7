import Intake.Form.Basic

/-!
# Reports

What checking the answers of a form finds: for each field at most one message, with what sort
of check it comes from.
-/

namespace Intake

/-- Where a message comes from: the check of one field, the check across fields, or the
attempt to submit. -/
inductive FindingKind where
  | field | crossField | submission
deriving DecidableEq, Repr

namespace FindingKind

/-- The name of a sort of finding. -/
def name : FindingKind → String
  | .field => "field"
  | .crossField => "cross_field"
  | .submission => "submission"

/-- All sorts of finding. -/
def all : List FindingKind := [.field, .crossField, .submission]

/-- The sort of finding with a name. -/
def ofName? (s : String) : Option FindingKind := all.find? fun k => k.name = s

end FindingKind

/-- A message for a field. -/
structure Finding where
  field : String
  message : String
  kind : FindingKind := .field
deriving DecidableEq, Repr

/-- All messages that one check of the answers gave. -/
structure Report where
  findings : List Finding
deriving DecidableEq, Repr

namespace Report

/-- Was nothing found? -/
def isValid (r : Report) : Bool := r.findings.isEmpty

/-- The first message of every field that has one, in order. -/
def byField (r : Report) : List (String × String) :=
  r.findings.foldl (fun found f =>
    if found.any fun e => e.1 == f.field then found else found ++ [(f.field, f.message)]) []

/-- The first message of a field. -/
def messageFor? (r : Report) (field : String) : Option String := r.byField.lookup field

end Report

end Intake
