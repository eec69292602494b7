/-!
# Blanks

A blank is a character of white space.  The list is closed: the ASCII blanks and separators,
the no-break and typographic spaces, and the line and paragraph separators.

* `strip` drops the blanks at both ends, `words` cuts a text at its blanks;
* `isBlankText` says that nothing but blanks is there.
-/

namespace Intake.Text

/-- Is `c` white space? -/
def isBlank (c : Char) : Bool :=
  let n := c.toNat
  (9 ≤ n && n ≤ 13) || (28 ≤ n && n ≤ 32) || n == 0x85 || n == 0xA0 || n == 0x1680 ||
    (0x2000 ≤ n && n ≤ 0x200A) || n == 0x2028 || n == 0x2029 || n == 0x202F || n == 0x205F ||
    n == 0x3000

/-- The characters without the blanks at either end. -/
def stripChars (cs : List Char) : List Char :=
  ((cs.dropWhile isBlank).reverse.dropWhile isBlank).reverse

/-- The text without the blanks at either end. -/
def strip (s : String) : String :=
  String.ofList (stripChars s.toList)

/-- Does the text hold nothing but blanks? -/
def isBlankText (s : String) : Bool :=
  s.toList.all isBlank

/-- The words of `cs`, where `word` is the part of a word already read, last character first. -/
def wordsAfter (word : List Char) : List Char → List (List Char)
  | [] => if word.isEmpty then [] else [word.reverse]
  | c :: rest =>
    if isBlank c then
      if word.isEmpty then wordsAfter [] rest else word.reverse :: wordsAfter [] rest
    else wordsAfter (c :: word) rest

/-- The pieces of a text between its blanks, none of them empty. -/
def words (s : String) : List String :=
  (wordsAfter [] s.toList).map String.ofList

/-- The words of a text with one space between two of them. -/
def collapseBlanks (s : String) : String :=
  " ".intercalate (words s)

end Intake.Text
