import Intake.Fault

/-!
# Characters of YAML

The classes of characters that the structure of a YAML text hangs on.  A text is read with all
its line ends as line feeds, so a line breaks at a line feed or at one of the three other
characters that Unicode has for it.

Several classes are asked of what lies ahead, where the end of the text belongs to them too.
-/

namespace Intake.Yaml

/-- Why a text gives no value: it is no YAML, or there was a fault on the way to the value. -/
inductive Flaw where
  | malformed
  | fault (f : Fault)
deriving DecidableEq, Repr

/-- Does a line break at `c`? -/
def isBreak (c : Char) : Bool :=
  c == '\n' || c.toNat == 0x85 || c.toNat == 0x2028 || c.toNat == 0x2029

/-- What a break becomes inside a scalar. -/
def breakOf (c : Char) : Char :=
  if c.toNat = 0x2028 ∨ c.toNat = 0x2029 then c else '\n'

/-- Is `c` a space or a tab? -/
def isSpace (c : Char) : Bool := c == ' ' || c == '\t'

/-- Is the end of the line ahead? -/
def endsLine : List Char → Bool
  | [] => true
  | c :: _ => isBreak c

/-- Is the end of the line or a space ahead? -/
def endsWord : List Char → Bool
  | [] => true
  | c :: _ => c == ' ' || isBreak c

/-- Is the end of the line, a space or a tab ahead? -/
def endsToken : List Char → Bool
  | [] => true
  | c :: _ => isSpace c || isBreak c

/-- Is the first character, if there is one, one of these? -/
def startsWithOneOf (marks : List Char) : List Char → Bool
  | [] => false
  | c :: _ => marks.contains c

/-- Can `c` stand in a name? -/
def isNameChar (c : Char) : Bool := c.isAlphanum || c == '-' || c == '_'

/-- Can `c` stand in a tag? -/
def isTagChar (c : Char) : Bool :=
  c.isAlphanum || "-;/?:@&=+$,_.!~*\x27()[]%".toList.contains c

/-- The value of a hexadecimal digit. -/
def hexValue? (c : Char) : Option Nat :=
  if '0' ≤ c ∧ c ≤ '9' then some (c.toNat - '0'.toNat)
  else if 'a' ≤ c ∧ c ≤ 'f' then some (c.toNat - 'a'.toNat + 10)
  else if 'A' ≤ c ∧ c ≤ 'F' then some (c.toNat - 'A'.toNat + 10)
  else none

/-- Reads a hexadecimal numeral of `count` digits onto `n`. -/
def hexNumber? (count n : Nat) (cs : List Char) : Option (Nat × List Char) :=
  match count, cs with
  | 0, rest => some (n, rest)
  | _ + 1, [] => none
  | count + 1, c :: rest => (hexValue? c).bind fun d => hexNumber? count (n * 16 + d) rest

/-- May `c` stand in a text at all? -/
def isPrintable (c : Char) : Bool :=
  let n := c.toNat
  n == 9 || n == 10 || n == 13 || (0x20 ≤ n && n ≤ 0x7E) || n == 0x85 ||
    (0xA0 ≤ n && n ≤ 0xFFFD) || 0x10000 ≤ n

/-- Is a line ahead that starts or ends a document? -/
def atMarker : List Char → Bool
  | '-' :: '-' :: '-' :: rest => endsToken rest
  | '.' :: '.' :: '.' :: rest => endsToken rest
  | _ => false

/-- The line ahead and what follows it, from its break on. -/
def line (cs : List Char) : List Char × List Char := cs.span fun c => !isBreak c

/-- What follows the spaces and the comment ahead, which have to end the line. -/
def afterComment? (cs : List Char) : Except Flaw (List Char) :=
  let rest := cs.dropWhile (· == ' ')
  let rest :=
    match rest with
    | '#' :: _ => (line rest).2
    | _ => rest
  match rest with
  | [] => .ok []
  | c :: more => if isBreak c then .ok more else .error .malformed

end Intake.Yaml
