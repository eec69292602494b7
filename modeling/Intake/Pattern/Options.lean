import Intake.Pattern.Syntax

/-!
# Options of a pattern

A letter after a question mark turns an option on or off, for the whole pattern or inside one
group: case is ignored, lines count, a point takes line feeds too, blanks are skipped, classes
are those of ASCII.
-/

namespace Intake.Pattern

/-- The options of a pattern. -/
structure Options where
  ignoreCase : Bool := false
  lines : Bool := false
  pointTakesAll : Bool := false
  verbose : Bool := false
  ascii : Bool := false
  unicode : Bool := false
  template : Bool := false
deriving DecidableEq, Repr

/-- The letters of options. -/
def isOptionLetter (c : Char) : Bool :=
  ['i', 'L', 'm', 's', 'x', 'a', 't', 'u'].contains c

/-- The options with those of some letters turned on or off. -/
def Options.put (value : Bool) (letters : List Char) (o : Options) : Options :=
  letters.foldl (fun o c =>
    if c = 'i' then { o with ignoreCase := value }
    else if c = 'm' then { o with lines := value }
    else if c = 's' then { o with pointTakesAll := value }
    else if c = 'x' then { o with verbose := value }
    else if c = 'a' then { o with ascii := value }
    else if c = 'u' then { o with unicode := value }
    else if c = 't' then { o with template := value }
    else o) o

/-- The options inside a group that turns some on and some off. -/
def Options.within (on off : List Char) (o : Options) : Options :=
  let o :=
    if on.contains 'a' || on.contains 'u' then { o with ascii := false, unicode := false } else o
  (o.put true on).put false off

/-- How characters are compared under some options. -/
def Options.mode (o : Options) : Mode := ⟨o.ignoreCase, o.ascii⟩

end Intake.Pattern
