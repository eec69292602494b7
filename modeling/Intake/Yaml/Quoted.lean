import Intake.Text.Quoted
import Intake.Yaml.Plain

/-!
# Quoted scalars

Between single quotes only the quote itself is special: it is written twice.  Between double
quotes a backslash starts an escape.  Line breaks fold as they do in plain scalars, and the
blanks around them go; a backslash before a break takes the break away.
-/

namespace Intake.Yaml

/-- Escapes of one character. -/
def shortEscapes : List (Char × Nat) :=
  [('0', 0), ('a', 7), ('b', 8), ('t', 9), ('\t', 9), ('n', 10), ('v', 11), ('f', 12), ('r', 13),
   ('e', 27), (' ', 32), ('"', 34), ('\\', 92), ('/', 47), ('N', 0x85), ('_', 0xA0),
   ('L', 0x2028), ('P', 0x2029)]

/-- Escapes that a hexadecimal numeral follows, and how many digits it has. -/
def longEscapes : List (Char × Nat) := [('x', 2), ('u', 4), ('U', 8)]

/-- Is the number the first half of a pair that stands for one character? -/
def isFirstHalf (n : Nat) : Bool := 0xD800 ≤ n && n ≤ 0xDBFF

/-- Is the number the second half of a pair that stands for one character? -/
def isSecondHalf (n : Nat) : Bool := 0xDC00 ≤ n && n ≤ 0xDFFF

/-- The second half of a pair, escaped, if it is ahead. -/
def secondHalf? (cs : List Char) : Option (Nat × List Char) :=
  match cs with
  | '\\' :: 'u' :: digits => (hexNumber? 4 0 digits).filter fun e => isSecondHalf e.1
  | _ => none

/-- The character with a number, and what follows; a pair of halves is one character. -/
def escaped? (n : Nat) (rest : List Char) : Except Flaw (Char × List Char) :=
  if 0x80000000 ≤ n then .error (.fault .numberTooLarge)
  else if 0x110000 ≤ n then .error (.fault (.badValue "chr() arg not in range(0x110000)"))
  else if isFirstHalf n then
    match secondHalf? rest with
    | some (low, after) =>
      .ok (Char.ofNat (0x10000 + (n - 0xD800) * 0x400 + (low - 0xDC00)), after)
    | none => .ok (Char.ofNat 0xFFFD, rest)
  else if isSecondHalf n then .ok (Char.ofNat 0xFFFD, rest)
  else .ok (Char.ofNat n, rest)

/-- The breaks and blanks ahead, at the start of a line: the breaks and what follows. -/
def quotedBreaks (fuel : Nat) (breaks cs : List Char) : Except Flaw (List Char × List Char) :=
  match fuel with
  | 0 => .error .malformed
  | fuel + 1 =>
    if atMarker cs then .error .malformed
    else
      match cs.dropWhile isSpace with
      | c :: rest =>
        if isBreak c then quotedBreaks fuel (breaks ++ [breakOf c]) rest
        else .ok (breaks, c :: rest)
      | [] => .ok (breaks, [])

/-- What the blanks and breaks ahead stand for, and what follows. -/
def quotedGap (cs : List Char) : Except Flaw (List Char × List Char) :=
  let (spaces, rest) := cs.span isSpace
  match rest with
  | [] => .error .malformed
  | c :: more =>
    if isBreak c then
      (quotedBreaks (more.length + 1) [] more).map fun (breaks, rest) => (folded c breaks, rest)
    else .ok (spaces, rest)

/-- What an escape stands for, and what follows; the backslash has been read. -/
def escape : List Char → Except Flaw (List Char × List Char)
  | [] => .error .malformed
  | c :: rest =>
    match shortEscapes.lookup c, longEscapes.lookup c with
    | some n, _ => .ok ([Char.ofNat n], rest)
    | none, some count =>
      match hexNumber? count 0 rest with
      | some (n, after) => (escaped? n after).map fun (c, rest) => ([c], rest)
      | none => .error .malformed
    | none, none =>
      if isBreak c then quotedBreaks (rest.length + 1) [] rest
      else .error .malformed

/-- Reads on in a quoted scalar after the text `done`: all of its text and what follows it. -/
def quotedFrom (fuel : Nat) (quote : Char) (done cs : List Char) :
    Except Flaw (List Char × List Char) :=
  match fuel, cs with
  | 0, _ | _, [] => .error .malformed
  | fuel + 1, c :: rest =>
    if c == quote then
      match rest with
      | '\x27' :: after =>
        if quote = '\x27' then quotedFrom fuel quote (done ++ ['\x27']) after else .ok (done, rest)
      | _ => .ok (done, rest)
    else if c == '\\' && quote == '"' then
      match escape rest with
      | .error f => .error f
      | .ok (text, after) => quotedFrom fuel quote (done ++ text) after
    else if isSpace c || isBreak c then
      match quotedGap (c :: rest) with
      | .error f => .error f
      | .ok (text, after) => quotedFrom fuel quote (done ++ text) after
    else quotedFrom fuel quote (done ++ [c]) rest

/-- Reads a quoted scalar whose first quote has been read. -/
def quotedScalar (quote : Char) (cs : List Char) : Except Flaw (List Char × List Char) :=
  quotedFrom (cs.length + 1) quote [] cs

end Intake.Yaml
