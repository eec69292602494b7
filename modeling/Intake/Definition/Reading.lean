import Intake.Definition.Issue

/-!
# Reading data

Reading data gives a value or a list of issues, all there are; reading the parts of a record one
after another collects the issues of all parts.  A fault brings reading to a halt.

The readers of texts, truth values and numbers are lenient: they take a number for a truth
value, and a text for a number that it writes.
-/

namespace Intake

/-- What reading gives. -/
def Reading (α : Type) : Type := Except Fault (Except (List Issue) α)

namespace Reading

variable {α β : Type}

/-- Reading that gives a value. -/
def good (x : α) : Reading α := .ok (.ok x)

/-- Reading that finds an issue right here. -/
def bad (cause : IssueCause) : Reading α := .ok (.error [⟨[], cause⟩])

/-- Reading that comes to a halt. -/
def halt (f : Fault) : Reading α := .error f

/-- One reading after another, with the issues of both. -/
def both (f : Reading (α → β)) (x : Unit → Reading α) : Reading β :=
  match f with
  | .error e => .error e
  | .ok (.ok g) =>
    match x () with
    | .error e => .error e
    | .ok (.ok a) => .ok (.ok (g a))
    | .ok (.error issues) => .ok (.error issues)
  | .ok (.error issues) =>
    match x () with
    | .error e => .error e
    | .ok (.ok _) => .ok (.error issues)
    | .ok (.error more) => .ok (.error (issues ++ more))

instance : Applicative Reading where
  pure := good
  seq := both

/-- A further reading of a value, if there is one. -/
def andThen (r : Reading α) (f : α → Reading β) : Reading β :=
  match r with
  | .error e => .error e
  | .ok (.ok a) => f a
  | .ok (.error issues) => .ok (.error issues)

/-- A reading with its issues seen from one step further out. -/
def under (step : Step) (r : Reading α) : Reading α :=
  match r with
  | .ok (.error issues) => .ok (.error (issues.map (Issue.under step)))
  | other => other

end Reading

/-- Reads every item of a list, with the issues of all. -/
def readItems {α : Type} (read : Value → Reading α) (index : Nat) :
    List Value → Reading (List α)
  | [] => .good []
  | v :: rest =>
    Reading.both ((read v).under (.item index) |>.andThen fun x => .good (x :: ·))
      fun _ => readItems read (index + 1) rest

/-- The entry of a record under the first of some spellings that is there. -/
def entryOf? (record : List (Value × Value)) : List String → Option (String × Value)
  | [] => none
  | spelling :: rest =>
    match Value.lookupEntry (.text spelling) record with
    | some v => some (spelling, v)
    | none => entryOf? record rest

/-- Reads a part of a record that has to be there. -/
def readPart {α : Type} (record : List (Value × Value)) (spellings : List String)
    (read : Value → Reading α) : Reading α :=
  match entryOf? record spellings with
  | some (spelling, v) => (read v).under (.key spelling)
  | none => (Reading.bad .missing).under (.key (spellings.headD ""))

/-- Reads a part of a record that may be missing. -/
def readPartOr {α : Type} (record : List (Value × Value)) (spellings : List String) (other : α)
    (read : Value → Reading α) : Reading α :=
  match entryOf? record spellings with
  | some (spelling, v) => (read v).under (.key spelling)
  | none => .good other

/-- Reads what may be nothing. -/
def readOption {α : Type} (read : Value → Reading α) : Value → Reading (Option α)
  | .null => .good none
  | v => some <$> read v

/-- Reads a record by name. -/
def readRecord {α : Type} (name : String) (read : List (Value × Value) → Reading α) :
    Value → Reading α
  | .dict entries => read entries
  | _ => .bad (.notRecord name)

/-- Reads a text. -/
def readText : Value → Reading String
  | .text s => .good s
  | _ => .bad .notText

/-- Reads a text that is not empty. -/
def readName (v : Value) : Reading String :=
  (readText v).andThen fun s => if s.isEmpty then .bad .emptyText else .good s

/-- Reads any value. -/
def readAny (v : Value) : Reading Value := .good v

/-- Reads a function. -/
def readCallable : Value → Reading (Callable Value)
  | .callable f => .good f
  | _ => .bad .notCallable

/-- Words for falsehood and truth. -/
def booleanWords : List (String × Bool) :=
  [("0", false), ("off", false), ("f", false), ("false", false), ("n", false), ("no", false),
   ("1", true), ("on", true), ("t", true), ("true", true), ("y", true), ("yes", true)]

/-- Is the integer one that a word of 64 bits can hold? -/
def isWord (n : Int) : Bool := -0x8000000000000000 ≤ n && n < 0x8000000000000000

/-- Reads an integer as a truth value. -/
def integerBoolean (n : Int) : Reading Bool :=
  if !isWord n then .bad .notBoolean
  else if n = 0 then .good false
  else if n = 1 then .good true
  else .bad .unclearBoolean

/-- Reads a truth value, also from a number or a word. -/
def readBoolean : Value → Reading Bool
  | .bool b => .good b
  | .int n => integerBoolean n
  | .float x =>
    match x.toInt? with
    | some n => integerBoolean n
    | none => .bad .notBoolean
  | .text s =>
    match booleanWords.lookup (String.ofList (s.toList.map Char.toLower)) with
    | some b => .good b
    | none => .bad .unclearBoolean
  | _ => .bad .notBoolean

namespace LenientNumeral

/-- Is `c` a blank around a numeral? -/
def isOuterBlank (c : Char) : Bool :=
  Text.isBlank c && !(28 ≤ c.toNat && c.toNat ≤ 31)

/-- The characters between the blanks at the ends. -/
def trimmed (s : String) : List Char :=
  ((s.toList.dropWhile isOuterBlank).reverse.dropWhile isOuterBlank).reverse

/-- Do two low lines stand side by side? -/
def hasDoubleLowLine : List Char → Bool
  | '_' :: '_' :: _ => true
  | _ :: rest => hasDoubleLowLine rest
  | [] => false

/-- The characters without their low lines, if none stands at an end or beside another. -/
def withoutLowLines? (cs : List Char) : Option (List Char) :=
  if cs.head? = some '_' ∨ cs.getLast? = some '_' ∨ hasDoubleLowLine cs then none
  else some (cs.filter (· ≠ '_'))

/-- The characters before a point that only zeros follow. -/
def withoutZeroFraction (cs : List Char) : List Char :=
  let whole := cs.takeWhile (· ≠ '.')
  match cs.dropWhile (· ≠ '.') with
  | _ :: zeros => if zeros.all (· == '0') then whole else cs
  | [] => cs

end LenientNumeral

/-- Reads the integer that a text writes. -/
def integerText (s : String) : Reading Int :=
  let cs := LenientNumeral.trimmed s
  let (negative, body) :=
    match cs with
    | '-' :: rest => (true, rest)
    | '+' :: rest => (false, rest)
    | _ => (false, cs)
  match LenientNumeral.withoutLowLines? (LenientNumeral.withoutZeroFraction body) with
  | none => .bad .unreadableInteger
  | some ds =>
    if ds.isEmpty || !ds.all Numeral.isDigit then .bad .unreadableInteger
    else if Numeral.digitLimit < (ds.dropWhile (· == '0')).length then .bad .integerTooLarge
    else
      let n : Int := Numeral.ofDigits ds
      .good (if negative then -n else n)

/-- Reads an integer, also from a truth value, a whole number or a text. -/
def readInteger : Value → Reading Int
  | .bool b => .good (if b then 1 else 0)
  | .int n => .good n
  | .float x =>
    if !x.isFinite then .bad .notFinite
    else
      match x.toInt? with
      | none => .bad .hasFraction
      | some n => if isWord n then .good n else .bad .integerTooLarge
  | .text s => integerText s
  | _ => .bad .notInteger

/-- Reads an integer that is not below a bound. -/
def readIntegerFrom (least : Int) (v : Value) : Reading Int :=
  (readInteger v).andThen fun n => if n < least then .bad (.below least) else .good n

/-- Reads the floating-point number that a text writes. -/
def floatText (s : String) : Reading Binary64 :=
  let read? (cs : List Char) : Option Binary64 :=
    let (negative, body) := Numeral.sign cs
    (Numeral.named? negative body).or (Numeral.decimal? negative body)
  let cs := LenientNumeral.trimmed s
  match (LenientNumeral.withoutLowLines? cs).bind read? with
  | some x => .good x
  | none => .bad .unreadableNumber

/-- Reads a floating-point number. -/
def readFloat : Value → Reading Binary64
  | .bool b => .good (.ofInt (if b then 1 else 0))
  | .int n =>
    match Binary64.ofInt? n with
    | some x => .good x
    | none => .bad .notNumber
  | .float x => .good x
  | .text s => floatText s
  | _ => .bad .notNumber

/-- Reads a bound on a number: a floating-point number as it is, and anything else as an
integer, or failing that as a floating-point number. -/
def readBound (v : Value) : Reading Bound :=
  match v with
  | .float x => .good (.float x)
  | _ =>
    match readInteger v with
    | .ok (.ok n) => .good (.int n)
    | integer =>
      match readFloat v with
      | .ok (.ok x) => .good (.float x)
      | float =>
        (fun _ => id) <$> integer.under (.key "int") <*>
          (Bound.float <$> float.under (.key "float"))

end Intake
