import Intake.Pattern.Source

/-!
# Escapes

What a backslash and the character after it stand for: a character by its number, a class of
characters, a place in the text, or what a group has taken.  `setEscape` reads one inside a
set, `escape` one elsewhere.
-/

namespace Intake.Pattern

/-- Is `c` a hexadecimal digit? -/
def isHex (c : Char) : Bool :=
  c.isDigit || ('a' ≤ c && c ≤ 'f') || ('A' ≤ c && c ≤ 'F')

/-- Is `c` an octal digit? -/
def isOctal (c : Char) : Bool := '0' ≤ c && c ≤ '7'

/-- The value of a hexadecimal digit. -/
def hexValue (c : Char) : Nat :=
  if c.isDigit then c.toNat - '0'.toNat
  else if c.toNat < 'a'.toNat then c.toNat - 'A'.toNat + 10 else c.toNat - 'a'.toNat + 10

/-- The number that digits of a base write. -/
def ofBase (base : Nat) (cs : List Char) : Nat :=
  cs.foldl (fun n c => n * base + hexValue c) 0

/-- The characters that a backslash and a letter stand for. -/
def controlOf? (c : Char) : Option Nat :=
  match c with
  | 'a' => some 7
  | 'b' => some 8
  | 'f' => some 12
  | 'n' => some 10
  | 'r' => some 13
  | 't' => some 9
  | 'v' => some 11
  | '\\' => some 92
  | _ => none

/-- The classes that a backslash and a letter stand for. -/
def categoryOf? (c : Char) : Option Category :=
  match c with
  | 'd' => some .digit
  | 'D' => some .notDigit
  | 's' => some .blank
  | 'S' => some .notBlank
  | 'w' => some .word
  | 'W' => some .notWord
  | _ => none

/-- The character of a hexadecimal escape with a fixed number of digits. -/
def hexEscape (letter : Char) (digits : Nat) : Reader Nat := do
  let ds ← takeWhile digits isHex
  let escape := String.ofList ('\\' :: letter :: ds)
  if ds.length ≠ digits then refuse (.incompleteEscape escape) escape.length
  else
    let n := ofBase 16 ds
    if 0x10FFFF < n then refuse (.badEscape escape) escape.length
    else return n

/-- The character of an escape by name.  The names that characters have are left out, so every name
is refused. -/
def namedEscape : Reader Nat := do
  unless ← takeIf '\x7b' do refuse .missingBrace 0
  let name ← takeName (← stepsLeft) '\x7d' "character name" []
  refuse (.undefinedCharacter name) (name.length + 4)

/-- An octal number, if it is that of a small character. -/
def octalEscape (ds : List Char) : Reader Nat := do
  let n := ofBase 8 ds
  let escape := String.ofList ('\\' :: ds)
  if 0o377 < n then refuse (.octalTooLarge escape) escape.length else return n

/-- Is `c` an ASCII letter? -/
def isAsciiLetter (c : Char) : Bool :=
  ('a' ≤ c && c ≤ 'z') || ('A' ≤ c && c ≤ 'Z')

/-- An escape that must be a character by its number, or the character itself. -/
def plainEscape (c : Char) : Reader Nat := do
  if c = 'x' then hexEscape c 2
  else if c = 'u' then hexEscape c 4
  else if c = 'U' then hexEscape c 8
  else if c = 'N' then namedEscape
  else if isAsciiLetter c || c.isDigit then refuse (.badEscape (String.ofList ['\\', c])) 2
  else return c.toNat

/-- The escape of a backslash and `c` inside a set. -/
def setEscape (c : Char) : Reader SetItem := do
  match controlOf? c, categoryOf? c with
  | some n, _ => return .char n
  | _, some category => return .category category
  | none, none =>
    if isOctal c then
      return .char (← octalEscape (c :: (← takeWhile 2 isOctal)))
    else return .char (← plainEscape c)

/-- Refuses a look back at a group that is still open or inside the same look-behind. -/
def guardBehind (group : Nat) : Reader Unit := do
  let r ← get
  match r.behindLimit with
  | none => return ()
  | some limit =>
    if (r.closed? group).isNone then refuse .openGroup 0
    else if limit ≤ group then refuse .groupInLookBehind 0

/-- The places that a backslash and a letter stand for. -/
def placeOf? (ascii : Bool) (c : Char) : Option Place :=
  match c with
  | 'A' => some .start
  | 'b' => some (.wordEdge ascii)
  | 'B' => some (.notWordEdge ascii)
  | 'Z' => some .textFinish
  | _ => none

/-- A look back at a group by its number. -/
def groupEscape (ds : List Char) : Reader Node := do
  let group := ofBase 10 ds
  let r ← get
  if group < r.groups then
    match r.closed? group with
    | none => refuse .openGroup (ds.length + 1)
    | some (low, high) =>
      guardBehind group
      return .same r.options.mode group low high
  else refuse (.invalidGroup group) ds.length

/-- The escape of a backslash and `c` outside sets. -/
def escape (c : Char) : Reader Node := do
  let options := (← get).options
  let char (n : Nat) : Node := .char options.mode false n
  match placeOf? options.ascii c, categoryOf? c, controlOf? c with
  | some place, _, _ => return .at place
  | _, some category, _ => return .oneOf options.mode false [.category category]
  | _, _, some n => return char n
  | none, none, none =>
    if c = '0' then
      return char (ofBase 8 (c :: (← takeWhile 2 isOctal)))
    else if c.isDigit then
      match ← takeWhile 1 Char.isDigit with
      | [d] =>
        if isOctal c && isOctal d then
          match ← takeWhile 1 isOctal with
          | [e] => return char (← octalEscape [c, d, e])
          | _ => groupEscape [c, d]
        else groupEscape [c, d]
      | _ => groupEscape [c]
    else return char (← plainEscape c)

end Intake.Pattern
