import Intake.Value.Shown

/-!
# One text for each value

`Value.canonical?` writes a value so that what it says can be compared as text: entries of a
dictionary in the order of their keys, tuples like lists, characters beyond ASCII by their
numbers, days and sets as they are shown, functions by what tells them apart.
-/

namespace Intake

namespace CallableKey

/-- The name of a slot. -/
def slotText : Slot → String
  | .condition => "condition"
  | .second => "second"
  | .rule => "rule"

/-- What tells a function from others, as text. -/
def text : CallableKey → String
  | .made ⟨.builtin form, field, slot⟩ =>
    "form " ++ form ++ " " ++ toString field ++ " " ++ slotText slot
  | .made ⟨.read serial, field, slot⟩ =>
    "read " ++ toString serial ++ " " ++ toString field ++ " " ++ slotText slot
  | .cleaner c =>
    match c with
    | .collapseBlanks => "cleaner collapse_whitespace"
    | .lower => "cleaner lower"
    | .upper => "cleaner upper"
  | .host name => "host " ++ name

end CallableKey

namespace Value

/-- A unit of 16 bits by its number. -/
def unitText (n : Nat) : List Char := '\\' :: 'u' :: Text.hexDigits 4 n

/-- A character between double quotes. -/
def canonicalChar (c : Char) : List Char :=
  let n := c.toNat
  if c = '"' then ['\\', '"']
  else if c = '\\' then ['\\', '\\']
  else if c = '\n' then ['\\', 'n']
  else if c = '\r' then ['\\', 'r']
  else if c = '\t' then ['\\', 't']
  else if n = 8 then ['\\', 'b']
  else if n = 12 then ['\\', 'f']
  else if 32 ≤ n ∧ n < 127 then [c]
  else if n < 0x10000 then unitText n
  else unitText (0xD800 + (n - 0x10000) / 0x400) ++ unitText (0xDC00 + (n - 0x10000) % 0x400)

/-- A text between double quotes. -/
def canonicalText (s : String) : String :=
  String.ofList ('"' :: s.toList.flatMap canonicalChar ++ ['"'])

/-- A floating-point number. -/
def canonicalFloat : Binary64 → String
  | .nan => "NaN"
  | .infinite negative => if negative then "-Infinity" else "Infinity"
  | x => x.text

/-- Entries under one key once, the last value under it, in the order of the keys. -/
def sortedEntries (entries : List (String × String)) : List (String × String) :=
  let last := entries.reverse.eraseDupsBy fun a b => a.1 == b.1
  last.mergeSort fun a b => a.1 ≤ b.1

/-- Entries between braces. -/
def canonicalEntries (entries : List (String × String)) : String :=
  "\x7b" ++ ", ".intercalate ((sortedEntries entries).map fun e =>
    canonicalText e.1 ++ ": " ++ e.2) ++ "\x7d"

/-- A function. -/
def canonicalCallable? (f : Callable Value) : Except Fault String :=
  (callableName? f).map fun name =>
    canonicalText ("<callable " ++ name ++ "@" ++ f.key.text ++ ">")

mutual

/-- The one text for a value. -/
def canonical? : Value → Except Fault String
  | .null => .ok "null"
  | .bool b => .ok (if b then "true" else "false")
  | .int n => intText? n
  | .float x => .ok (canonicalFloat x)
  | .text s => .ok (canonicalText s)
  | .list items | .tuple items => (canonicalAll? items).map fun parts =>
      "[" ++ ", ".intercalate parts ++ "]"
  | .set items => (shown? (.set items)).map canonicalText
  | .day d => .ok (canonicalText d.shown)
  | .moment m => .ok (canonicalText m.spelled)
  | .dict entries => (canonicalEach? entries).map canonicalEntries
  | .callable f => canonicalCallable? f
  | .rule test message => (canonicalCallable? test).map fun t =>
      canonicalEntries [("test", t), ("message", canonicalText message)]

/-- The texts for some values. -/
def canonicalAll? : List Value → Except Fault (List String)
  | [] => .ok []
  | x :: xs => do
    let first ← canonical? x
    let rest ← canonicalAll? xs
    return first :: rest

/-- The texts for the entries of a dictionary. -/
def canonicalEach? : List (Value × Value) → Except Fault (List (String × String))
  | [] => .ok []
  | (k, v) :: rest => do
    let key ← text? k
    let value ← canonical? v
    let others ← canonicalEach? rest
    return (key, value) :: others

end

end Value

end Intake
