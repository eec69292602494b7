import Intake.Text.Blank
import Intake.Text.Case
import Intake.Text.Word

/-!
# Markup in text

Answers are kept free of markup, in three steps one after the other:

* `dropBlocks` takes out script and style blocks, with all that stands in them;
* `dropTags` takes out what else looks like a tag; a quoted part of a tag may hold angle
  brackets;
* `dropBrackets` takes out the angle brackets that are left.

Each step goes from left to right.  Where a block or a tag is not closed, its opening bracket
is an ordinary character for that step.
-/

namespace Intake.Text

namespace Markup

/-- Do two characters agree when case is ignored? -/
def sameLetter (a b : Char) : Bool := simpleLower a == simpleLower b

/-- Is `c` the small letter `letter` in either case, or a letter with the same capital? -/
def isLetterOf (letter c : Char) : Bool :=
  let l := (simpleLower c).toNat
  l == letter.toNat || (kinOf letter.toNat).contains l

/-- Takes a name, in whatever case, off the front: the name as written, and what follows. -/
def takeName? : List Char → List Char → Option (List Char × List Char)
  | [], cs => some ([], cs)
  | letter :: letters, c :: cs =>
    if isLetterOf letter c then (takeName? letters cs).map fun (name, rest) => (c :: name, rest)
    else none
  | _ :: _, [] => none

/-- Takes characters that agree with `name` off the front. -/
def dropSame? : List Char → List Char → Option (List Char)
  | [], cs => some cs
  | a :: name, c :: cs => if sameLetter a c then dropSame? name cs else none
  | _ :: _, [] => none

/-- Is the next character part of a word? -/
def startsWithWordChar : List Char → Bool
  | [] => false
  | c :: _ => isWordLetter c || c == '_'

/-- What follows the next closing bracket. -/
def afterBracket? : List Char → Option (List Char)
  | [] => none
  | c :: rest => if c = '>' then some rest else afterBracket? rest

/-- What follows the closing tag of `name`, if one starts here. -/
def afterClosing? (name : List Char) : List Char → Option (List Char)
  | '<' :: '/' :: rest =>
    match dropSame? name rest with
    | some more =>
      match more.dropWhile isBlank with
      | '>' :: after => some after
      | _ => none
    | none => none
  | _ => none

/-- What follows the first closing tag of `name`. -/
def afterBlock? (name : List Char) : List Char → Option (List Char)
  | [] => none
  | c :: rest =>
    match afterClosing? name (c :: rest) with
    | some after => some after
    | none => afterBlock? name rest

/-- The names of blocks that go with their content. -/
def blockNames : List (List Char) := ["script".toList, "style".toList]

/-- The block name that `cs` starts with, as written, and what follows it. -/
def blockName? (cs : List Char) : Option (List Char × List Char) :=
  blockNames.findSome? fun name => takeName? name cs

/-- What follows a block, given what follows its opening bracket. -/
def afterOpenBlock? (cs : List Char) : Option (List Char) :=
  match blockName? cs with
  | some (name, rest) =>
    if startsWithWordChar rest then none else (afterBracket? rest).bind (afterBlock? name)
  | none => none

/-- What follows a tag, given what follows the first character of its name.  `quote` is the
quote in force. -/
def afterTagName? (quote : Option Char) : List Char → Option (List Char)
  | [] => none
  | c :: rest =>
    match quote with
    | some q => afterTagName? (if c = q then none else some q) rest
    | none =>
      if c = '>' then some rest
      else if c = '<' then none
      else afterTagName? (if c = '"' ∨ c = '\x27' then some c else none) rest

/-- Can a tag's name start with `c`? -/
def startsTag (c : Char) : Bool := c.isAlpha || c == '!' || c == '?'

/-- What follows a tag, given what follows its opening bracket. -/
def afterOpenTag? : List Char → Option (List Char)
  | '/' :: c :: rest => if startsTag c then afterTagName? none rest else none
  | c :: rest => if startsTag c then afterTagName? none rest else none
  | [] => none

/-- Goes from left to right and takes out what starts with an opening bracket and ends where
`after?` says, given what follows the bracket. -/
def dropSpans (after? : List Char → Option (List Char)) (fuel : Nat) (cs : List Char) :
    List Char :=
  match fuel, cs with
  | 0, _ => cs
  | _, [] => []
  | fuel + 1, c :: rest =>
    if c = '<' then
      match after? rest with
      | some more => dropSpans after? fuel more
      | none => c :: dropSpans after? fuel rest
    else c :: dropSpans after? fuel rest

/-- The characters without script and style blocks. -/
def dropBlocks (cs : List Char) : List Char := dropSpans afterOpenBlock? cs.length cs

/-- The characters without tags. -/
def dropTags (cs : List Char) : List Char := dropSpans afterOpenTag? cs.length cs

/-- Is `c` an angle bracket? -/
def isBracket (c : Char) : Bool := c == '<' || c == '>'

/-- The characters without angle brackets. -/
def dropBrackets (cs : List Char) : List Char := cs.filter fun c => !isBracket c

end Markup

/-- The text without markup and angle brackets. -/
def stripTags (s : String) : String :=
  String.ofList (Markup.dropBrackets (Markup.dropTags (Markup.dropBlocks s.toList)))

end Intake.Text
