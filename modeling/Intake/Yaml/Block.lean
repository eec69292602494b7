import Intake.Yaml.Chars

/-!
# Block scalars

A block scalar is a header and the indented lines after it.  The header says whether breaks
stay or fold, what becomes of the breaks at the end, and perhaps how far the lines are
indented; if it does not, the first line says it.

Breaks fold only between two lines that start with neither a space nor a tab.
-/

namespace Intake.Yaml

/-- What becomes of the breaks at the end: all but one go, all go, or all stay. -/
inductive Chomp where
  | clip | strip | keep
deriving DecidableEq, Repr

/-- The header of a block scalar. -/
structure BlockHeader where
  chomp : Chomp
  indent : Option Nat

/-- The sign that says what becomes of the breaks at the end. -/
def chompSign : List Char → Option (Chomp × List Char)
  | '+' :: rest => some (.keep, rest)
  | '-' :: rest => some (.strip, rest)
  | _ => none

/-- The digit that says how far lines are indented; it is not zero. -/
def indentDigit : List Char → Except Flaw (Option Nat × List Char)
  | c :: rest =>
    if !c.isDigit then .ok (none, c :: rest)
    else if c = '0' then .error .malformed
    else .ok (some (c.toNat - '0'.toNat), rest)
  | [] => .ok (none, [])

/-- Reads a header, the sign and the digit of which come in either order. -/
def blockHeader (cs : List Char) : Except Flaw (BlockHeader × List Char) := do
  let (header, rest) ←
    match chompSign cs with
    | some (chomp, rest) => do
      let (indent, rest) ← indentDigit rest
      pure (⟨chomp, indent⟩, rest)
    | none => do
      let (indent, rest) ← indentDigit cs
      match indent, chompSign rest with
      | some _, some (chomp, rest) => pure (⟨chomp, indent⟩, rest)
      | _, _ => pure (⟨.clip, indent⟩, rest)
  if endsWord rest then .ok (header, rest) else .error .malformed

/-- Where the text of a block scalar stands: the column, and the text from there. -/
structure BlockPlace where
  column : Nat
  rest : List Char

/-- Goes through empty lines to the first other one: the breaks, the greatest column on the
way, and the place. -/
def firstLine (column greatest : Nat) (breaks : List Char) :
    List Char → List Char × Nat × BlockPlace
  | [] => (breaks, greatest, ⟨column, []⟩)
  | c :: rest =>
    if c = ' ' then firstLine (column + 1) (max greatest (column + 1)) breaks rest
    else if isBreak c then firstLine 0 greatest (breaks ++ [breakOf c]) rest
    else (breaks, greatest, ⟨column, c :: rest⟩)

/-- Goes through lines with nothing but spaces, up to column `indent` of the first other one. -/
def emptyLines (indent column : Nat) (breaks : List Char) : List Char → List Char × BlockPlace
  | [] => (breaks, ⟨column, []⟩)
  | c :: rest =>
    if c = ' ' ∧ column < indent then emptyLines indent (column + 1) breaks rest
    else if isBreak c then emptyLines indent 0 (breaks ++ [breakOf c]) rest
    else (breaks, ⟨column, c :: rest⟩)

/-- The break after a line, if there is one. -/
def lineBreak : List Char → List Char × List Char
  | c :: rest => if isBreak c then ([breakOf c], rest) else ([], c :: rest)
  | [] => ([], [])

/-- Does the line ahead start with a space or a tab? -/
def startsWithSpace : List Char → Bool
  | c :: _ => isSpace c
  | [] => false

/-- What the break between two lines and the empty lines after it become. -/
def joined (folding : Bool) (first second lastBreak breaks : List Char) : List Char :=
  if folding && lastBreak == ['\n'] && !startsWithSpace first && !startsWithSpace second then
    if breaks.isEmpty then [' '] else []
  else lastBreak

/-- What the last break and the empty lines after it become. -/
def chomped (chomp : Chomp) (lastBreak breaks : List Char) : List Char :=
  match chomp with
  | .clip => lastBreak
  | .strip => []
  | .keep => lastBreak ++ breaks

/-- Reads on in a block scalar after the text `done`, a break and empty lines. -/
def blockFrom (fuel : Nat) (folding : Bool) (chomp : Chomp) (indent : Nat)
    (done lastBreak breaks : List Char) (place : BlockPlace) : List Char × List Char :=
  let stop := (done ++ chomped chomp lastBreak breaks, place.rest)
  match fuel with
  | 0 => stop
  | fuel + 1 =>
    if place.column ≠ indent ∨ place.rest.isEmpty then stop
    else
      let (text, rest) := line place.rest
      let (nextBreak, rest) := lineBreak rest
      let (nextBreaks, next) := emptyLines indent 0 [] rest
      let done := done ++ breaks ++ text
      let goesOn := next.column = indent ∧ !next.rest.isEmpty
      let done :=
        if goesOn then done ++ joined folding place.rest next.rest nextBreak nextBreaks else done
      blockFrom fuel folding chomp indent done nextBreak nextBreaks next

/-- Reads a block scalar whose first mark has been read, for a block at column `outer`: its
text and what follows it. -/
def blockScalar (folding : Bool) (outer : Int) (cs : List Char) :
    Except Flaw (List Char × List Char) := do
  let (header, rest) ← blockHeader cs
  let rest ← afterComment? rest
  let least := (max (outer + 1) 1).toNat
  match header.indent with
  | some extra =>
    let indent := least + extra - 1
    let (breaks, place) := emptyLines indent 0 [] rest
    return blockFrom (rest.length + 1) folding header.chomp indent [] [] breaks place
  | none =>
    let (breaks, greatest, place) := firstLine 0 0 [] rest
    let indent := max least greatest
    return blockFrom (rest.length + 1) folding header.chomp indent [] [] breaks place

end Intake.Yaml
