import Intake.Form.Condition
import Intake.Net.WebAddress
import Intake.Text.Markup

/-!
# Cleaning values

Every sort of field has a form to which raw values are brought before they are checked:

* texts lose their markup and the blanks around them;
* mail addresses are written small, web addresses in their one form;
* numbers stay numbers, and texts that write one become one, within the range of
  floating-point numbers;
* lists keep their texts that are not empty.

What cannot be brought there becomes the empty value of its sort.  A field's own cleaner runs
after that, and its result is cleaned again; if it fails, what it was handed is the result, as it
left it.
-/

namespace Intake

namespace FieldType

/-- The value of a cleaned field that nothing was entered in. -/
def emptyValue : FieldType → Value
  | .multiSelect | .multiValue => .list []
  | .number => .int 0
  | .checkbox => .bool false
  | _ => .text ""

/-- The value of a fresh field. -/
def freshValue : FieldType → Value
  | .multiSelect | .multiValue => .list []
  | .checkbox => .bool false
  | _ => .text ""

end FieldType

namespace Cleaning

/-- A text or number as text; anything else has none. -/
def plainText? : Value → Except Fault String
  | .text s => .ok s
  | .int n => Value.intText? n
  | .float x => .ok x.text
  | _ => .ok ""

/-- A text without markup and blanks around it. -/
def text? (v : Value) : Except Fault String :=
  (plainText? v).map fun s => Text.strip (Text.stripTags s)

/-- A mail address in small letters. -/
def email? (v : Value) : Except Fault String :=
  (plainText? v).map fun s => Text.lower (Text.strip s)

/-- A web address in its one form. -/
def url? (v : Value) : Except Fault String :=
  (plainText? v).map fun s => (WebAddress.normal? (Text.strip s)).getD ""

/-- An integer, if it is in the range of floating-point numbers. -/
def integer (n : Int) : Value := .int (if (Binary64.ofInt? n).isSome then n else 0)

/-- A floating-point number, if it is finite. -/
def decimal (x : Binary64) : Value := if x.isFinite then .float x else .int 0

/-- The number that a text writes: an integer, or else a floating-point number. -/
def numberText (s : String) : Value :=
  match Numeral.readInt s with
  | .ok n => integer n
  | .error _ =>
    match Numeral.readFloat? s with
    | some x => decimal x
    | none => .int 0

/-- A number. -/
def number : Value → Value
  | .bool b => .int (if b then 1 else 0)
  | .int n => integer n
  | .float x => decimal x
  | .text s => numberText s
  | _ => .int 0

/-- Words that mean no. -/
def noWords : List String := ["", "false", "0", "off", "no"]

/-- A truth value. -/
def checkbox : Value → Bool
  | .text s => !noWords.contains (Text.lower (Text.strip s))
  | v => v.truthy

/-- The texts of a list that are not empty once cleaned. -/
def list? (v : Value) : Except Fault (List String) :=
  match v.sequence? with
  | none => .ok []
  | some items => (items.mapM text?).map fun texts => texts.filter fun s => !s.isEmpty

/-- A day, left as it is unless it is a text. -/
def date : Value → Value
  | .null => .text ""
  | .text s => .text (Text.strip s)
  | v => v

/-- A password: only the blanks around it go. -/
def password? : Value → Except Fault String
  | .null => .ok ""
  | v => v.text?.map Text.strip

end Cleaning

/-- A value brought to the form of a sort of field. -/
def FieldType.clean? (v : Value) : FieldType → Except Fault Value
  | .text | .textarea | .select => (Cleaning.text? v).map .text
  | .email => (Cleaning.email? v).map .text
  | .url => (Cleaning.url? v).map .text
  | .number => .ok (Cleaning.number v)
  | .checkbox => .ok (.bool (Cleaning.checkbox v))
  | .multiSelect | .multiValue => (Cleaning.list? v).map fun texts => .list (texts.map .text)
  | .date => .ok (Cleaning.date v)
  | .password => (Cleaning.password? v).map .text

namespace Cleaner

/-- The name of a cleaner. -/
def name : Cleaner → String
  | .collapseBlanks => "collapse_whitespace"
  | .lower => "lower"
  | .upper => "upper"

/-- All cleaners, by the order of their names. -/
def all : List Cleaner := [.collapseBlanks, .lower, .upper]

/-- The cleaner with a name. -/
def ofName? (s : String) : Option Cleaner := all.find? fun c => c.name = s

/-- What a cleaner does to a text. -/
def applyText : Cleaner → String → String
  | .collapseBlanks => Text.collapseBlanks
  | .lower => Text.lower
  | .upper => Text.upper

/-- What a cleaner does to a value: it changes a text, and the texts of a list. -/
def apply (c : Cleaner) : Value → Value
  | .text s => .text (c.applyText s)
  | .list items => .list (items.map fun
    | .text s => .text (c.applyText s)
    | item => item)
  | v => v

end Cleaner

/-- What a function that a field names as its cleaner does to a value. -/
def Callable.clean? (host : Host) (v : Value) : Callable Value → Except Fault Value
  | .cleaner c => .ok (c.apply v)
  | .host name => host.clean name v
  | .predicate .. | .test .. => .error (.badCall "missing 1 required positional argument")

/-- Can a function change the value that it is handed? -/
def Value.isChangeable : Value → Bool
  | .list _ | .set _ | .dict _ => true
  | _ => false

/-- What a cleaner that fails leaves of the value that it was handed. -/
def Callable.leaves (host : Host) (v : Value) : Callable Value → Value
  | .host name =>
    let left := host.left name v
    if v.isChangeable && left.kind = v.kind then left else v
  | _ => v

/-- A value brought to the form of a field.  A cleaner that fails is passed over. -/
def Field.clean? (host : Host) (d : Field) (v : Value) : Except Fault Value := do
  let cleaned ← d.type.clean? v
  match d.cleaner with
  | none => return cleaned
  | some cleaner =>
    match cleaner.clean? host cleaned with
    | .error f => f.passOver (cleaner.leaves host cleaned)
    | .ok own => d.type.clean? own

end Intake
