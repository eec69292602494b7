import Intake.Answers
import Intake.Fault
import Intake.Text.Case
import Intake.Ticket
import Intake.Value.Amount
import Intake.Value.Shown

/-!
# Predicates and tests

The functions that a form can name: **predicates** over the value of a controlling field, and
**tests** of a field's own rule, which may look at other answers.  A test expects a value that
has passed the check of its field's type; on another one it may fail.
-/

namespace Intake

/-- Is the value nothing, a blank text, or a collection without items?  Zero and falsehood are
values. -/
def Value.isEmpty : Value → Bool
  | .null => true
  | .text s => Text.isBlankText s
  | .list items | .tuple items | .set items => List.isEmpty items
  | _ => false

/-- Does `part` occur in `whole`? -/
def Text.occurs (part : List Char) : List Char → Bool
  | [] => part.isEmpty
  | c :: rest => part.isPrefixOf (c :: rest) || Text.occurs part rest

/-- Is an item in a collection, or a text within a text? -/
def Value.includes? (item : Value) : Value → Except Fault Bool
  | .list items | .tuple items => .ok (items.any (eqv item))
  | .set items =>
    match item with
    | .set _ => .ok false
    | _ =>
      match item.unhashable? with
      | some kind => .error (.unhashable kind)
      | none => .ok (items.any (eqv item))
  | .text whole =>
    match item with
    | .text part => .ok (Text.occurs part.toList whole.toList)
    | _ => .ok false
  | _ => .ok false

/-- Does the predicate hold of a value? -/
def Predicate.holds? (value : Value) : Predicate Value → Except Fault Bool
  | .equals expected => .ok (value.strictEqv expected)
  | .contains item => Value.includes? item value
  | .isTruthy => .ok value.truthy
  | .notEmpty => .ok (!value.isEmpty)

/-- The answer under a name that need not be a text. -/
def Answers.at? (answers : Answers) (name : Value) : Except Fault Value :=
  match name with
  | .text s => .ok (answers.get s)
  | _ =>
    match name.unhashable? with
    | some kind => .error (.unhashable kind)
    | none => .ok .null

/-- The characters or items that a value consists of. -/
def Value.items? : Value → Except Fault (List Value)
  | .list items | .tuple items | .set items => .ok items
  | .text s => .ok (s.toList.map fun c => .text c.toString)
  | .dict entries => .ok (entries.map Prod.fst)
  | other => .error (.notIterable other.kind)

/-- A text without the blanks around it. -/
def Value.stripped? : Value → Except Fault String
  | .text s => .ok (Text.strip s)
  | other => .error (.noMember other.kind "strip")

/-- Does the text end with `suffix`? -/
def Text.endsWith (suffix s : String) : Bool :=
  suffix.toList.reverse.isPrefixOf s.toList.reverse

/-- The number of items of a list or tuple; of anything else there are none. -/
def Value.itemCount (v : Value) : Nat :=
  match v.sequence? with
  | some items => items.length
  | none => 0

namespace RuleTest

/-- Is the amount no greater than a limit?  Without a limit above zero, it is. -/
def withinLimit (limit : Option Binary64) (amount : Option Binary64) : Bool :=
  match limit with
  | none => true
  | some limit =>
    limit.le .zero || amount.any fun x => x.le limit

/-- Is the amount at least the number of items? -/
def coversCount (amount : Option Binary64) (count : Nat) : Bool :=
  amount.any fun x => x.compareInt? count == some .gt || x.eqvInt count

/-- The text of an item, by which items are told apart. -/
def itemKey? (item : Value) : Except Fault String :=
  item.text?.map fun s => Text.lower (Text.strip s)

/-- Does the value pass the test, given all answers? -/
def passes? (value : Value) (answers : Answers) : RuleTest Value → Except Fault Bool
  | .ticketLink => value.stripped?.map Ticket.isLink
  | .ticketKey => value.stripped?.map Ticket.isKey
  | .emailDomain suffix => value.stripped?.map fun s => Text.endsWith suffix (Text.lower s)
  | .notMoreThan field => do
    let limit ← answers.at? field
    return withinLimit limit.amount? value.amount?
  | .atLeastItemsOf field => do
    let items ← answers.at? field
    return coversCount value.amount? items.itemCount
  | .uniqueItems => do
    let items ← value.items?
    let keys ← items.mapM itemKey?
    return decide keys.Nodup

end RuleTest

end Intake
