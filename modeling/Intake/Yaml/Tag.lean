import Intake.Yaml.Chars

/-!
# Tags of YAML

The **tag** of a node says what sort of value the node is.  Collections and quoted scalars have
theirs from their form; a plain scalar has it from its text: `yes` is a truth value, `0x1F` an
integer, `2026-01-23` a day, and what looks like nothing of the kind is a text.

* `Tag.ofPlain` gives the tag of a plain scalar;
* `Tag.ofName` gives the tag with a name.
-/

namespace Intake.Yaml

/-- A sort of value; `merge` and `value` mean something only as keys. -/
inductive Tag where
  | null | bool | int | float | timestamp | text | list | map | set | orderedMap | pairs
  | merge | value | unknown
deriving DecidableEq, Repr

/-- What the names of tags start with. -/
def tagStart : String := "tag:yaml.org,2002:"

/-- The tags that have a name. -/
def namedTags : List (String × Tag) :=
  [("null", .null), ("bool", .bool), ("int", .int), ("float", .float), ("timestamp", .timestamp),
   ("str", .text), ("seq", .list), ("map", .map), ("set", .set), ("omap", .orderedMap),
   ("pairs", .pairs), ("merge", .merge), ("value", .value)]

/-- The tag with a name. -/
def Tag.ofName (name : String) : Tag :=
  match namedTags.find? fun e => tagStart ++ e.1 = name with
  | some (_, t) => t
  | none => .unknown

/-- Words for nothing. -/
def nullWords : List String := ["", "~", "null", "Null", "NULL"]

/-- Words for truth and falsehood, in small letters. -/
def boolWords : List (String × Bool) :=
  [("yes", true), ("no", false), ("true", true), ("false", false), ("on", true), ("off", false)]

/-- A word in small letters, with a capital, and in capitals. -/
def spellings (word : String) : List String :=
  [word, word.capitalize, String.ofList (word.toList.map Char.toUpper)]

namespace PlainForm

/-- Is `c` a digit or a low line? -/
def isSpacedDigit (c : Char) : Bool := c.isDigit || c == '_'

/-- What follows a sign, if there is one. -/
def unsigned : List Char → List Char
  | '+' :: rest | '-' :: rest => rest
  | cs => cs

/-- Does the text go on with a digit, and then with digits and low lines?  What follows them. -/
def afterDigits? : List Char → Option (List Char)
  | c :: rest => if c.isDigit then some (rest.dropWhile isSpacedDigit) else none
  | [] => none

/-- Is the rest empty, or an exponent with a sign? -/
def isExponent : List Char → Bool
  | [] => true
  | e :: sign :: ds =>
    (e == 'e' || e == 'E') && (sign == '+' || sign == '-') && !ds.isEmpty && ds.all Char.isDigit
  | _ => false

/-- Goes through groups of a colon and a number below 60, and says if there was one. -/
def afterSixties (fuel : Nat) (some_ : Bool) (cs : List Char) : Bool × List Char :=
  match fuel, cs with
  | fuel + 1, ':' :: rest =>
    let (ds, after) := rest.span Char.isDigit
    match ds with
    | [_] => afterSixties fuel true after
    | [c, _] => if c ≤ '5' then afterSixties fuel true after else (some_, cs)
    | _ => (some_, cs)
  | _, _ => (some_, cs)

/-- Does the text look like a number with a point? -/
def isFloat (cs : List Char) : Bool :=
  let body := unsigned cs
  let decimal :=
    match afterDigits? body with
    | some ('.' :: rest) => isExponent (rest.dropWhile isSpacedDigit)
    | _ => false
  let fraction :=
    match cs with
    | '.' :: rest =>
      match afterDigits? rest with
      | some rest => isExponent rest
      | none => false
    | _ => false
  let sixties :=
    match afterDigits? body with
    | some rest =>
      match afterSixties rest.length false rest with
      | (true, '.' :: rest) => rest.all isSpacedDigit
      | _ => false
    | none => false
  decimal || fraction || sixties ||
    ([".inf", ".Inf", ".INF"].map String.toList).contains body ||
    ([".nan", ".NaN", ".NAN"].map String.toList).contains cs

/-- Does the text look like an integer? -/
def isInt (cs : List Char) : Bool :=
  match unsigned cs with
  | ['0'] => true
  | '0' :: 'b' :: rest => !rest.isEmpty && rest.all fun c => c == '0' || c == '1' || c == '_'
  | '0' :: 'x' :: rest => !rest.isEmpty && rest.all fun c => (hexValue? c).isSome || c == '_'
  | '0' :: rest => rest.all fun c => ('0' ≤ c && c ≤ '7') || c == '_'
  | body =>
    match afterDigits? body with
    | some [] => true
    | some rest => afterSixties rest.length false rest == (true, [])
    | none => false

end PlainForm

/-- A time of day with seconds, a fraction of one, and perhaps an offset in seconds. -/
structure StampTime where
  hour : Nat
  minute : Nat
  second : Nat
  fraction : List Char
  offset : Option Int

/-- The numbers of a day, perhaps with a time; `fullWidth` if month and day have two digits. -/
structure Stamp where
  year : Nat
  month : Nat
  day : Nat
  fullWidth : Bool
  time : Option StampTime

namespace Stamp

/-- A number of `least` to `most` digits, with how many there are. -/
def digits? (least most : Nat) (cs : List Char) : Option (Nat × Nat × List Char) :=
  let ds := (cs.take most).takeWhile Char.isDigit
  if ds.length < least then none
  else some (ds.foldl (fun n c => n * 10 + (c.toNat - '0'.toNat)) 0, ds.length, cs.drop ds.length)

/-- What follows a character. -/
def after? (mark : Char) : List Char → Option (List Char)
  | c :: rest => if c = mark then some rest else none
  | [] => none

/-- What follows the mark between day and time. -/
def afterDay? : List Char → Option (List Char)
  | [] => none
  | c :: rest =>
    if c = 'T' ∨ c = 't' then some rest
    else if isSpace c then some (rest.dropWhile isSpace)
    else none

/-- An offset with its sign: hours and perhaps minutes. -/
def offset? (negative : Bool) (cs : List Char) : Option Int := do
  let (hours, _, rest) ← digits? 1 2 cs
  let minutes ←
    match rest with
    | [] => some 0
    | _ => do
      let (minutes, _, rest) ← digits? 2 2 (← after? ':' rest)
      if rest.isEmpty then some minutes else none
  let seconds : Int := (hours * 3600 + minutes * 60 : Nat)
  return if negative then -seconds else seconds

/-- The offset at the end of a time: none, or universal time, or another one. -/
def zone? (cs : List Char) : Option (Option Int) :=
  match cs with
  | [] => some none
  | _ =>
    match cs.dropWhile isSpace with
    | ['Z'] => some (some 0)
    | '+' :: rest => (offset? false rest).map some
    | '-' :: rest => (offset? true rest).map some
    | _ => none

/-- The time of day that a text writes. -/
def time? (cs : List Char) : Option StampTime := do
  let (hour, _, cs) ← digits? 1 2 cs
  let (minute, _, cs) ← digits? 2 2 (← after? ':' cs)
  let (second, _, cs) ← digits? 2 2 (← after? ':' cs)
  let (fraction, cs) :=
    match cs with
    | '.' :: rest => rest.span Char.isDigit
    | _ => ([], cs)
  return ⟨hour, minute, second, fraction, ← zone? cs⟩

/-- The day, perhaps with a time, that a text writes. -/
def ofChars? (cs : List Char) : Option Stamp := do
  let (year, _, cs) ← digits? 4 4 cs
  let (month, monthWidth, cs) ← digits? 1 2 (← after? '-' cs)
  let (day, dayWidth, cs) ← digits? 1 2 (← after? '-' cs)
  let time ←
    match cs with
    | [] => some none
    | _ => do
      let time ← time? (← afterDay? cs)
      some (some time)
  return ⟨year, month, day, monthWidth = 2 && dayWidth = 2, time⟩

end Stamp

/-- A text without a line feed at its end, unless there is nothing else. -/
def withoutFinalBreak (cs : List Char) : List Char :=
  if cs.getLast? = some '\n' ∧ 1 < cs.length then cs.dropLast else cs

/-- Does the text look like a day, in full width, or like a day with a time? -/
def isStamp (cs : List Char) : Bool :=
  match Stamp.ofChars? cs with
  | some s => s.fullWidth || s.time.isSome
  | none => false

/-- The tag of a plain scalar; a line feed at its end does not count. -/
def Tag.ofPlain (whole : String) : Tag :=
  let cs := withoutFinalBreak whole.toList
  let text := String.ofList cs
  if (boolWords.flatMap fun e => spellings e.1).contains text then .bool
  else if PlainForm.isFloat cs then .float
  else if PlainForm.isInt cs then .int
  else if text = "<<" then .merge
  else if nullWords.contains text then .null
  else if isStamp cs then .timestamp
  else if text = "=" then .value
  else if text = "!" ∨ text = "&" ∨ text = "*" then .unknown
  else .text

end Intake.Yaml
