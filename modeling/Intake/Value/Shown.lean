import Intake.Number.Shortest
import Intake.Text.Quoted
import Intake.Value.Equality
import Intake.Fault

/-!
# Values as text

* `Value.text?` gives a text itself and shows every other value;
* `Value.shown?` shows a value as part of another one: texts stand between quotes, days are
  spelled out.

Both fail on integers of more than 4300 digits, wherever they are inside the value.
-/

namespace Intake

/-- More digits than this are not written. -/
def Value.digitLimit : Nat := 4300

/-- An integer in decimal, unless it has too many digits. -/
def Value.intText? (n : Int) : Except Fault String :=
  let digits := toString n.natAbs
  if Value.digitLimit < digits.length then .error .tooManyDigits
  else .ok (if n < 0 then "-" ++ digits else digits)

/-- A span of time in seconds, spelled out. -/
def Moment.shownSpan (span : Int) : String :=
  let days := span / 86400
  let seconds := span % 86400
  let parts :=
    (if days = 0 then [] else ["days=" ++ toString days]) ++
    (if seconds = 0 then [] else ["seconds=" ++ toString seconds])
  "datetime.timedelta(" ++ (if parts.isEmpty then "0" else ", ".intercalate parts) ++ ")"

/-- An offset from universal time, spelled out. -/
def Moment.shownOffset (offset : Int) : String :=
  if offset = 0 then "datetime.timezone.utc"
  else "datetime.timezone(" ++ Moment.shownSpan offset ++ ")"

/-- A day, spelled out. -/
def Day.shown (d : Day) : String :=
  "datetime.date(" ++ toString d.year ++ ", " ++ toString d.month ++ ", " ++ toString d.day ++ ")"

/-- A moment, spelled out: seconds and microseconds only as far as they are not zero. -/
def Moment.spelled (m : Moment) : String :=
  let parts := [m.day.year, m.day.month, m.day.day, m.hour, m.minute] ++
    (if m.micro ≠ 0 then [m.second, m.micro] else if m.second ≠ 0 then [m.second] else [])
  "datetime.datetime(" ++ ", ".intercalate (parts.map toString) ++
    (match m.offset with
     | some offset => ", tzinfo=" ++ Moment.shownOffset offset
     | none => "") ++ ")"

namespace Value

mutual

/-- A value as part of another one. -/
def shown? : Value → Except Fault String
  | .null => .ok "None"
  | .bool b => .ok (if b then "True" else "False")
  | .int n => intText? n
  | .float x => .ok x.text
  | .text s => .ok (Text.quoted s)
  | .list items => (shownAll? items).map fun parts => "[" ++ ", ".intercalate parts ++ "]"
  | .tuple items => (shownAll? items).map fun parts =>
      "(" ++ ", ".intercalate parts ++ (if parts.length = 1 then ",)" else ")")
  | .set items => (shownAll? items).map fun parts =>
      if parts.isEmpty then "set()" else "\x7b" ++ ", ".intercalate parts ++ "\x7d"
  | .day d => .ok d.shown
  | .moment m => .ok m.spelled
  | .dict entries => (shownEntries? entries).map fun parts =>
      "\x7b" ++ ", ".intercalate parts ++ "\x7d"
  | .callable f => (callableName? f).map fun name => "<function " ++ name ++ ">"
  | .rule test message => (callableName? test).map fun name =>
      "CustomRule(test=<function " ++ name ++ ">, message=" ++ Text.quoted message ++ ")"

/-- Each of some values as part of another one. -/
def shownAll? : List Value → Except Fault (List String)
  | [] => .ok []
  | x :: xs => do
    let first ← shown? x
    let rest ← shownAll? xs
    return first :: rest

/-- Each entry of a dictionary. -/
def shownEntries? : List (Value × Value) → Except Fault (List String)
  | [] => .ok []
  | (k, v) :: rest => do
    let key ← shown? k
    let value ← shown? v
    let others ← shownEntries? rest
    return (key ++ ": " ++ value) :: others

/-- The name by which a function is shown. -/
def callableName? : Callable Value → Except Fault String
  | .predicate p _ => predicateName? p
  | .test .. => .ok "test"
  | .cleaner .collapseBlanks => .ok "collapse_whitespace"
  | .cleaner .lower => .ok "lower"
  | .cleaner .upper => .ok "upper"
  | .host name => .ok name

/-- The name of a predicate: which it is, and its argument. -/
def predicateName? : Predicate Value → Except Fault String
  | .equals expected => (shown? expected).map fun arg => "equals(" ++ arg ++ ")"
  | .contains item => (shown? item).map fun arg => "contains(" ++ arg ++ ")"
  | .isTruthy => .ok "is_truthy()"
  | .notEmpty => .ok "not_empty()"

end

/-- A value by itself as text. -/
def text? : Value → Except Fault String
  | .text s => .ok s
  | .day d => .ok d.text
  | .moment m => .ok m.text
  | other => shown? other

end Value

end Intake
