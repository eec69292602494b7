import Intake.Net.HostName
import Intake.Text.Word

/-!
# Mail addresses

A mail address is a user, an `@` and a domain.  The user is made of words with points between
them, of letters, digits, some marks and anything sensible beyond ASCII.  The domain must be
one that mail can reach from everywhere: at least two labels, the last one ending in a letter,
and none of the names that are set apart for other uses.

`isMailAddress` recognises mail addresses; quoted users and numeric domains are not among them.
-/

namespace Intake.Net

open Text

/-- Can `c` be part of a word of the user? -/
def isUserChar (c : Char) : Bool :=
  c.isAlphanum || "_!#$%&\x27*+-/=?^\x60\x7b|\x7d~".toList.contains c || !isAscii c

/-- Can a character be shown, and does a text not start with a mark? -/
def isSensible (cs : List Char) : Bool :=
  cs.all isPrintable && cs.head?.all fun c => !isMark c

/-- Is a text made of words of the user with points between them? -/
def isUserText (cs : List Char) : Bool :=
  (labels cs).all (fun word => !word.isEmpty && word.all isUserChar) &&
    (cs.all isAscii || isSensible cs)

/-- Is the text the user of a mail address, as it is and in composed form? -/
def isUser (cs : List Char) : Bool :=
  isUserText cs && isUserText (composedChars cs)

/-- Can `c` be part of a domain? -/
def isDomainChar (c : Char) : Bool :=
  c.isAlphanum || c == '-' || c == '.' || !isAscii c

/-- Does a label hold two dashes after two characters? -/
def hasDashesAfterTwo (label : List Char) : Bool :=
  (label.drop 2).take 2 == ['-', '-']

/-- Is the label sound: neither empty nor with a dash at either end? -/
def isSoundLabel (label : List Char) : Bool :=
  !label.isEmpty && label.head? != some '-' && label.getLast? != some '-'

/-- Is every character of a label allowed where it stands, and is the label readable? -/
def isProperLabel (label : List Char) : Bool :=
  isSoundLabel label && !hasDashesAfterTwo label && isComposed label &&
    label.head?.all (fun c => !isMark c) && haveTheirPlaces label [] label &&
    (!hasRightToLeft label || followsDirection label)

/-- The label that an ASCII label stands for. -/
def properLabel? (label : List Char) : Option (List Char) :=
  match afterMark? label with
  | none => if isProperLabel label then some label else none
  | some written =>
    if written.getLast? = some '-' then none
    else (Punycode.decode? written).filter fun l => !l.isEmpty && isProperLabel l

/-- The longest label, in characters. -/
def labelLimit : Nat := 63

/-- The longest domain, in characters. -/
def domainLimit : Nat := 253

/-- The longest mail address, in characters and in octets. -/
def mailLimit : Nat := 254

/-- A label of a domain in ASCII. -/
def domainLabel? (label : List Char) : Option (List Char) :=
  if label.all isAscii then some label
  else if isProperLabel label then some (writtenLabel label)
  else none

/-- Names that are set apart. -/
def reservedNames : List String := ["arpa", "invalid", "local", "localhost", "onion", "test"]

/-- Is a domain, or the end of it, a name that is set apart? -/
def isReserved (domain : List Char) : Bool :=
  reservedNames.any fun name =>
    let ending := name.toList
    domain == ending || ('.' :: ending).reverse.isPrefixOf domain.reverse

/-- A domain in ASCII, unless mail cannot reach it. -/
def asciiDomain? (cs : List Char) : Option (List Char) := do
  if !(cs.all isDomainChar && isSensible cs) then none
  let plain ← plainName? cs
  let parts := labels plain
  if !plain.all isDomainChar then none
  if !parts.all (fun l =>
      isSoundLabel l && !(hasDashesAfterTwo l && l.take 2 != ['x', 'n'])) then none
  let written ← parts.mapM domainLabel?
  let domain := ['.'].intercalate written
  if domain.length ≤ domainLimit && written.all (fun l => l.length ≤ labelLimit) &&
      1 < written.length && domain.getLast?.any Char.isAlpha && !isReserved domain then
    some domain
  else none

/-- The number of octets of some characters. -/
def octetCount (cs : List Char) : Nat := cs.foldl (fun n c => n + c.utf8Size) 0

/-- Is the text a mail address? -/
def isMailAddress (s : String) : Bool :=
  let cs := s.toList
  let user := cs.takeWhile (· ≠ '@')
  match cs.dropWhile (· ≠ '@') with
  | [] => false
  | _ :: domain =>
    isUser user &&
      match asciiDomain? domain with
      | none => false
      | some ascii =>
        match (labels ascii).mapM properLabel? with
        | none => false
        | some read =>
          (!user.all isAscii || user.length + 1 + ascii.length ≤ mailLimit) &&
            octetCount (composedChars user) + 1 + octetCount (['.'].intercalate read) ≤ mailLimit

end Intake.Net
