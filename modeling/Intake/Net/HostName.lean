import Intake.Net.Label
import Intake.Net.Punycode

/-!
# Names of hosts

A name is brought into one form: every character is taken as the charts say, the result is
composed and cut into labels, and labels beyond ASCII are written in ASCII.  A label that
already claims to be written so has to be the written form of a proper label.

* `plainName?` takes the characters of a name;
* `asciiName?` gives the form in which a name travels.
-/

namespace Intake.Net

open Text

/-- What a sequence of characters is taken as, unless one is refused. -/
def takeChars? : List Char → Option (List Char)
  | [] => some []
  | c :: rest =>
    match nameChar c with
    | .taken ns => (takeChars? rest).map (ns.map Char.ofNat ++ ·)
    | .ignored => takeChars? rest
    | .refused => none

/-- The characters of a name as they are taken, in composed form. -/
def plainName? (cs : List Char) : Option (List Char) :=
  (takeChars? cs).map composedChars

/-- The pieces of a row of characters between points. -/
def splitAt (point : Char) : List Char → List (List Char)
  | [] => [[]]
  | c :: rest =>
    if c = point then [] :: splitAt point rest
    else
      match splitAt point rest with
      | [] => [[c]]
      | piece :: pieces => (c :: piece) :: pieces

/-- The labels of a name. -/
def labels (cs : List Char) : List (List Char) := splitAt '.' cs

/-- Is `c` an ASCII character? -/
def isAscii (c : Char) : Bool := c.toNat < 128

/-- How a label that is written in ASCII starts. -/
def asciiMark : List Char := "xn--".toList

/-- What follows the mark of a label that is written in ASCII. -/
def afterMark? (label : List Char) : Option (List Char) :=
  if asciiMark.isPrefixOf label then some (label.drop asciiMark.length) else none

/-- A label beyond ASCII, in the form in which it travels. -/
def writtenLabel (label : List Char) : List Char := asciiMark ++ Punycode.encode label

/-- Is the label readable: does it start with no mark, and are its joiners in place? -/
def isReadable (label : List Char) : Bool :=
  (label.head?.all fun c => !isMark c) && joinersFit [] label

/-- The label that `written` stands for. -/
def readLabel? (written : List Char) : Option (List Char) := do
  let label ← Punycode.decode? written
  if label.all isAscii || !label.all isTakenAsIs || !isComposed label || !isReadable label then
    none
  else some label

/-- A label as it is read and as it travels. -/
structure HostLabel where
  read : List Char
  written : List Char

/-- The two forms of a label. -/
def hostLabel? (label : List Char) : Option HostLabel :=
  match afterMark? label with
  | some written => (readLabel? written).map fun read => ⟨read, label⟩
  | none =>
    if label.all isAscii then some ⟨label, label⟩
    else if isReadable label then some ⟨label, writtenLabel label⟩
    else none

/-- Do the directions of writing of a name's labels agree? -/
def labelsFollowDirection (name : List HostLabel) : Bool :=
  !name.any (fun l => hasRightToLeft l.read) ||
    name.all fun l => l.read.isEmpty || followsDirection l.read

/-- ASCII characters that the name of a host cannot hold. -/
def isForbidden (c : Char) : Bool :=
  c.toNat ≤ 32 || c.toNat == 127 || "%#/:<>?@[\\]^|".toList.contains c

/-- The form in which the name of a host travels. -/
def asciiName? (cs : List Char) : Option (List Char) := do
  let plain ← plainName? cs
  let name ← (labels plain).mapM hostLabel?
  let ascii := ['.'].intercalate (name.map HostLabel.written)
  if labelsFollowDirection name && !ascii.any isForbidden then some ascii else none

end Intake.Net
