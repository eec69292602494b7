import Intake.Yaml.Chars

/-!
# Plain scalars

A plain scalar is text without quotes.  It goes on over the lines that follow as long as they
are indented enough; single line breaks inside it become spaces, and of several the first one
goes.

It ends before a comment and before a colon with a blank after it, and between brackets also
before the marks that have a meaning there.
-/

namespace Intake.Yaml

/-- Does a plain scalar end before a colon with this behind it? -/
def endsAtColon (inFlow : Bool) (behind : List Char) : Bool :=
  endsToken behind || (inFlow && startsWithOneOf [',', '[', ']', '\x7b', '\x7d'] behind)

/-- Marks that end a plain scalar between brackets. -/
def flowMarks : List Char := [',', '?', '[', ']', '\x7b', '\x7d']

/-- A word of a plain scalar, and what follows it. -/
def plainWord (inFlow : Bool) : List Char → List Char × List Char
  | [] => ([], [])
  | c :: rest =>
    if isSpace c || isBreak c || (c == ':' && endsAtColon inFlow rest) ||
        (inFlow && flowMarks.contains c) then ([], c :: rest)
    else
      let (word, after) := plainWord inFlow rest
      (c :: word, after)

/-- What lies between two words of a plain scalar: the text it stands for (none where the scalar
ends), what follows, and if there was a line break, the column that it ends in. -/
structure Gap where
  text : List Char
  rest : List Char
  column? : Option Nat

/-- Goes through spaces and breaks up to the next word: the breaks, the column of the word and
the rest.  No breaks are given if a document ends there. -/
def gapLines (column : Nat) (breaks : List Char) : List Char → Option (List Char) × Nat × List Char
  | [] => (some breaks, column, [])
  | c :: rest =>
    if c = ' ' then gapLines (column + 1) breaks rest
    else if isBreak c then
      if atMarker rest then (none, 0, rest)
      else gapLines 0 (breaks ++ [breakOf c]) rest
    else (some breaks, column, c :: rest)

/-- What a first break and the ones after it become. -/
def folded (first : Char) (breaks : List Char) : List Char :=
  if breakOf first ≠ '\n' then breakOf first :: breaks
  else if breaks.isEmpty then [' ']
  else breaks

/-- What lies ahead between two words of a plain scalar. -/
def plainGap (cs : List Char) : Gap :=
  let (spaces, rest) := cs.span (· == ' ')
  match rest with
  | c :: more =>
    if isBreak c then
      if atMarker more then ⟨[], more, some 0⟩
      else
        match gapLines 0 [] more with
        | (some breaks, column, rest) => ⟨folded c breaks, rest, some column⟩
        | (none, column, rest) => ⟨[], rest, some column⟩
    else ⟨spaces, rest, none⟩
  | [] => ⟨spaces, rest, none⟩

/-- A plain scalar: its text, what follows it, and whether a line broke just before that. -/
structure PlainScalar where
  text : List Char
  rest : List Char
  brokeLine : Bool

/-- Reads on in a plain scalar after the text `done` and a gap. -/
def plainFrom (fuel : Nat) (inFlow : Bool) (indent : Int) (done : List Char) (gap : Gap) :
    PlainScalar :=
  let stop : PlainScalar := ⟨done, gap.rest, gap.column?.isSome⟩
  match fuel with
  | 0 => stop
  | fuel + 1 =>
    if startsWithOneOf ['#'] gap.rest then stop
    else
      let (word, rest) := plainWord inFlow gap.rest
      if word.isEmpty then stop
      else
        let next := plainGap rest
        let done := done ++ gap.text ++ word
        let outdented := !inFlow && next.column?.any fun column => (column : Int) < indent
        if next.text.isEmpty || outdented then ⟨done, next.rest, next.column?.isSome⟩
        else plainFrom fuel inFlow indent done next

/-- Reads a plain scalar whose lines are indented by `indent` or more. -/
def plainScalar (inFlow : Bool) (indent : Int) (cs : List Char) : PlainScalar :=
  plainFrom (cs.length + 1) inFlow indent [] ⟨[], cs, none⟩

end Intake.Yaml
