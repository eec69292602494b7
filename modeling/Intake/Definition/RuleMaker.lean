import Intake.Definition.Reading
import Intake.Form.OwnRule

/-!
# Makers of rules

A form's own rule is made by a maker that the form names, with parameters and perhaps a
message.

* `RuleMaker.ofName?` finds a maker;
* `RuleMaker.make?` makes a rule; it says what is wrong with the parameters, or with the
  message.
-/

namespace Intake

/-- The makers of rules. -/
inductive RuleMaker where
  | ticketLink | ticketKey | emailDomain | notMoreThan | atLeastItemsOf | uniqueItems
deriving DecidableEq, Repr

/-- Why a rule was not made: the parameters do not fit, the message is no text, or a fault. -/
inductive RuleError where
  | badParameters (problem : String)
  | badMessage
  | fault (f : Fault)
deriving DecidableEq, Repr

namespace RuleMaker

/-- All makers, by the order of their names. -/
def all : List RuleMaker :=
  [.atLeastItemsOf, .emailDomain, .ticketLink, .notMoreThan, .ticketKey, .uniqueItems]

/-- The name of a maker. -/
def name : RuleMaker → String
  | .ticketLink => "jira_link"
  | .ticketKey => "task_number"
  | .emailDomain => "email_domain"
  | .notMoreThan => "not_more_than_field"
  | .atLeastItemsOf => "at_least_items_of"
  | .uniqueItems => "unique_items"

/-- The maker with a name. -/
def ofName? (s : String) : Option RuleMaker := all.find? fun m => m.name = s

/-- The parameter that a maker needs besides a message. -/
def parameter? : RuleMaker → Option String
  | .emailDomain => some "domain"
  | .notMoreThan | .atLeastItemsOf => some "field"
  | _ => none

/-- The call of a maker, in messages. -/
def call (m : RuleMaker) : String := m.name ++ "_rule()"

/-- The names of parameters that are not texts, and those that a maker does not take. -/
def wrongName? (m : RuleMaker) : List (Value × Value) → Option String
  | [] => none
  | (.text s, _) :: rest =>
    if s = "message" ∨ m.parameter? = some s then wrongName? m rest
    else some (m.call ++ " got an unexpected keyword argument '" ++ s ++ "'")
  | _ :: _ => some "keywords must be strings"

/-- The value of the parameter that a maker needs. -/
def needed? (m : RuleMaker) (params : List (Value × Value)) : Except RuleError Value :=
  match m.parameter? with
  | none => .ok .null
  | some p =>
    match Value.lookupEntry (.text p) params with
    | some v => .ok v
    | none =>
      .error (.badParameters (m.call ++ " missing 1 required positional argument: '" ++ p ++ "'"))

/-- A given message, or another one if nothing is given. -/
def messageOr (given : Value) (other : Except Fault String) : Except RuleError String :=
  if given.truthy then
    match given with
    | .text s => .ok s
    | _ => .error .badMessage
  else other.mapError .fault

/-- A domain as the end of a mail address. -/
def domainSuffix? : Value → Except Fault String
  | .text s => .ok ("@" ++ String.ofList ((Text.lower s).toList.dropWhile (· == '@')))
  | v => .error (.noMember v.kind "lower")

/-- The test of a rule and its message, for a parameter and a given message. -/
def build? (m : RuleMaker) (parameter given : Value) :
    Except RuleError (RuleTest Value × String) := do
  match m with
  | .ticketLink =>
    return (.ticketLink, ← messageOr given
      (.ok "Invalid Jira link format. Must be a valid Atlassian Jira URL"))
  | .ticketKey =>
    return (.ticketKey, ← messageOr given
      (.ok "Invalid task number format (e.g., TASK-123, PROJ-456)"))
  | .emailDomain =>
    let suffix ← (domainSuffix? parameter).mapError .fault
    return (.emailDomain suffix, ← messageOr given
      (.ok ("Only " ++ suffix ++ " email addresses are accepted")))
  | .notMoreThan =>
    return (.notMoreThan parameter, ← messageOr given
      (parameter.text?.map ("Must not exceed " ++ ·)))
  | .atLeastItemsOf =>
    return (.atLeastItemsOf parameter, ← messageOr given
      (parameter.text?.map ("Must match the items selected in " ++ ·)))
  | .uniqueItems =>
    return (.uniqueItems, ← messageOr given (.ok "Each value can only be added once"))

/-- Makes a rule from parameters, a message perhaps among them. -/
def make? (m : RuleMaker) (params : List (Value × Value)) :
    Except RuleError (RuleTest Value × String) := do
  match wrongName? m params with
  | some problem => .error (.badParameters problem)
  | none =>
    let parameter ← needed? m params
    build? m parameter ((Value.lookupEntry (.text "message") params).getD .null)

/-- Makes a rule from parameters and a message beside them. -/
def makeWithMessage? (m : RuleMaker) (params : List (Value × Value)) (message : Value) :
    Except RuleError (RuleTest Value × String) :=
  if (Value.lookupEntry (.text "message") params).isSome then
    .error (.badParameters ("form_engine.runtime.custom_rules." ++ m.call ++
      " got multiple values for keyword argument 'message'"))
  else make? m ((.text "message", message) :: params)

end RuleMaker

end Intake
