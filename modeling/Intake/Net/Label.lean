import Intake.Net.NameChart
import Intake.Text.Digit
import Intake.Text.Name
import Intake.Text.Normal
import Intake.Text.Word

/-!
# Labels of internet names

A name is made of labels with points between them.  A label with characters beyond ASCII has
to be readable without doubt:

* `followsDirection` keeps writing directions apart: a label goes from right to left or from
  left to right, and ends in a letter or a number;
* `joinerFits` allows an invisible joiner only where it changes how its neighbours look;
* `isLetterLike` holds of the characters that a label of a mail domain is made of, and
  `hasItsPlace` of the few more that depend on their neighbours.
-/

namespace Intake.Net

open Text

/-- The direction of writing that a character belongs to. -/
inductive Direction where
  | left | right | arabicNumber | number | mark | neutral
deriving DecidableEq, Repr

/-- Letters that are written from right to left. -/
def rightRow : String :=
  String.join [
    "14u 0 2 0 3 0 3 0 a q 5 5 k 0 3 0 2 0 e 1b z 2 2 2s g 1 8 1 b j 2 1 2 t u 2g c 0 f 16 a 1 5 ",
    "0 4 n 5 0 a 0 4 0 8 e 2 o 6 0 2 a 6 u i 15 4li 0 179q 0 2 9 2 c 2 4 2 0 2 1 2 1 2 3g h a2 j ",
    "1r 3 1h 15 c 38 4 2 3q 1s4 5 3 0 2 17 2 1 4 0 3 m 2 1z 9 8 1d i 2 1 6 w 5 p 6 0 1t 1j 5 j 3 ",
    "1a g 3 2 2 2 s b 8 8 8 8 1r x 10 7 b a 1h b l 3 q 6 p 8 3 d 6 29 20 1k 1e e 1e 8 15 9p 15 4 ",
    "0 3 1 27 13 9 l c 8 n h 5 3 13 r l m 16oa 5g 3 8 1d 1v 8 0 5 9 5 1 lu 1v 25 1o 5f 3 2 q 2 1 ",
    "2 0 3 0 2 9 2 3 2 0 2 0 7 0 5 0 2 0 2 0 2 2 2 1 2 0 3 0 2 0 2 0 2 0 2 0 2 1 2 0 3 3 2 6 2 3 ",
    "2 3 2 0 2 9 2 g 6 2 2 4 2 g"]

/-- Letters that are written from right to left. -/
def rightChart : Chart := Chart.ofRow rightRow

/-- Numbers that go with such letters. -/
def arabicNumberRow : String :=
  "16o 5 2j 9 2 1 35 0 c3 1 29 0 1ff2 9 87 u"

/-- Numbers that go with such letters. -/
def arabicNumberChart : Chart := Chart.ofRow arabicNumberRow

/-- Numbers that go with all letters. -/
def numberRow : String :=
  "1c 9 3d 1 6 0 187 9 513 0 4 5 7 9 sf j 175h 9 qw q 161f 1d 4xt a 25i 9"

/-- Numbers that go with all letters. -/
def numberChart : Chart := Chart.ofRow numberRow

/-- The direction of writing of a character. -/
def directionOf (c : Char) : Direction :=
  let n := c.toNat
  if n < 128 then
    if c.isAlpha then .left else if c.isDigit then .number else .neutral
  else if rightChart.contains n then .right
  else if arabicNumberChart.contains n then .arabicNumber
  else if numberChart.contains n then .number
  else if isMark c then .mark
  else if isWordLetter c then .left
  else .neutral

/-- Does the label hold anything that goes from right to left? -/
def hasRightToLeft (label : List Char) : Bool :=
  label.any fun c => directionOf c == .right || directionOf c == .arabicNumber

/-- The direction of the last character that is not a mark. -/
def lastDirection? (ds : List Direction) : Option Direction :=
  (ds.filter fun d => d != .mark).getLast?

/-- Do the directions of a label agree? -/
def followsDirection (label : List Char) : Bool :=
  let ds := label.map directionOf
  match ds.head? with
  | some .right =>
    !ds.contains .left && !(ds.contains .number && ds.contains .arabicNumber) &&
      (lastDirection? ds).any fun d => d == .right || d == .number || d == .arabicNumber
  | some .left =>
    !ds.contains .right && !ds.contains .arabicNumber &&
      (lastDirection? ds).any fun d => d == .left || d == .number
  | _ => false

/-- Letters that join on both sides. -/
def joinsBothRow : String :=
  String.join [
    "17k 0 6 0 2 0 2 4 5 c 2 6 2 1 10 1 9 f j 11 2 1 a 0 2 0 2 1 15 2 3 0 j 2 6 3 2 8 2 0 2 0 2 1 ",
    "w a 4 e 3 3 2 0 3 2 3 5 23 w 2f 4 3 0 2 9 2 0 b 0 2 3 3 0 u 0 3 4 2 0 h 9 6 1 3 5 2 e 30f 0 ",
    "p 2g f x 2 0 sd2 1d jf3 4 f 3 2 4 2 2 b 3 42 0 2 0 4 2 2 1 2 0 3 0 t 1 9f w 2 0 bk 1 2 1 2x ",
    "2 2 g d 2 t 3 3 b 1b 0 2 1 5 0 3 1 2 1 2 0 3 0 6 0 16wm 1v"]

/-- Letters that join on both sides. -/
def joinsBothChart : Chart := Chart.ofRow joinsBothRow

/-- Letters that join to what follows only. -/
def joinsNextRow : String :=
  "x9u 0 jff 0 a 0 fd 0 jv 0"

/-- Letters that join to what follows only. -/
def joinsNextChart : Chart := Chart.ofRow joinsNextRow

/-- Letters that join to what precedes only. -/
def joinsLastRow : String :=
  String.join [
    "17m 3 2 0 2 0 6 3 m 0 15 2 2 2 h h 13 0 3 8 2 0 2 0 3 1 2 0 p 1 x 0 5 4 5 0 a 0 2 0 2 0 3 0 ",
    "u 0 c 2 g 1 5 0 2 1 4 1 5j 0 6 1 2 0 b 0 2 2 f 0 2 1 6 i c 0 s 2 2 0 3 1 7 0 1ez0 0 2 0 2 1 ",
    "4 4 b 0 4 0 3 0 b 0 42 0 2 2 4 0 3 0 2 1 2 0 o 3 ae 0 bk 0 35 0 x 0 w 1 1r 2 3 1 3 0 5 1 6 0"]

/-- Letters that join to what precedes only. -/
def joinsLastChart : Chart := Chart.ofRow joinsLastRow

/-- Does the nearest of some characters that is not a mark join as a chart or another says? -/
def nearestJoins (one other : Chart) : List Char → Bool
  | [] => false
  | c :: rest =>
    if one.contains c.toNat || other.contains c.toNat then true
    else if isMark c then nearestJoins one other rest
    else false

/-- The class of the marks that silence a vowel. -/
def viramaClass : Nat := 9

/-- Is the nearest character a mark that silences a vowel? -/
def endsInVirama : List Char → Bool
  | [] => false
  | c :: _ => combiningClass c.toNat == viramaClass

/-- The invisible character that keeps its neighbours apart, and the one that joins them. -/
def isJoiner (c : Char) : Bool := c.toNat == 0x200C || c.toNat == 0x200D

/-- Is a joiner allowed after the characters `before`, nearest first, and before `rest`? -/
def joinerFits (before : List Char) (c : Char) (rest : List Char) : Bool :=
  endsInVirama before ||
    (c.toNat == 0x200C && nearestJoins joinsBothChart joinsNextChart before &&
      nearestJoins joinsBothChart joinsLastChart rest)

/-- Are all joiners of a label allowed?  `before` holds what precedes, nearest first. -/
def joinersFit (before : List Char) : List Char → Bool
  | [] => true
  | c :: rest => (!isJoiner c || joinerFits before c rest) && joinersFit (c :: before) rest

/-- Letters, digits and marks that a label of a mail domain cannot hold all the same. -/
def unfitRow : String :=
  String.join [
    "w8 1 c7 0 w 9 3r 9 75 0 1s6 2m 3 4e 1q7 0 176 w 30e 1 2 4 6 0 ncl 2 ku s 94k m 5 1c 1d9m 4 4 ",
    "5 9 7 3 6 v 3 45 2"]

/-- Letters, digits and marks that a label of a mail domain cannot hold all the same. -/
def unfitChart : Chart := Chart.ofRow unfitRow

/-- Characters of other sorts that such a label can hold. -/
def fitBesides : List Nat := [0x2D, 0x6FD, 0x6FE, 0xF0B, 0x3007]

/-- Is `c` a character that a label of a mail domain is made of? -/
def isLetterLike (c : Char) : Bool :=
  fitBesides.contains c.toNat ||
    ((isLetter c || isDecimal c || isMark c) && !unfitChart.contains c.toNat &&
      isTakenAsIs c && isComposed [c])

/-- Greek letters. -/
def greekRow : String :=
  String.join [
    "og 3 2 2 3 3 2 0 5 0 2 0 2 2 2 0 2 j 2 1q f f 4yv 4 1f 4 5 4 2d 0 8x l 3 5 3 11 3 5 3 7 2 0 ",
    "2 0 2 0 2 u 3 1g 2 e 2 d 3 5 2 i 3 2 2 8 88 0 rb3 0 gyj 26 i 0 155s 1x"]

/-- Greek letters. -/
def greekChart : Chart := Chart.ofRow greekRow

/-- Hebrew letters. -/
def hebrewRow : String :=
  "13l 1i 9 q 5 5 1cfd p 2 4 2 0 2 1 2 1 2 9"

/-- Hebrew letters. -/
def hebrewChart : Chart := Chart.ofRow hebrewRow

/-- Japanese letters and Chinese characters. -/
def kanaRow : String :=
  String.join [
    "96o p 2 2g d 5x 1c 0 2 0 q 8 f 3 6 2d 7 2 2 2h 3 2 6p f 5t 1a 2 2f 4p 533 1t g73 hkx a5 3 2x ",
    "wd 9 2 18 m6d 1 d 6 cmy 3 2 6 2 1 2 82 g 0 u 2 3 0 f 3 crd 0 2rk wyn x 3dp 3 4gd 3 5rk g h9 ",
    "1wj f1 15v 3t6 6 6jt"]

/-- Japanese letters and Chinese characters. -/
def kanaChart : Chart := Chart.ofRow kanaRow

/-- Is `n` an Arabic digit of the western sort? -/
def isWesternArabicDigit (n : Nat) : Bool := 0x660 ≤ n && n ≤ 0x669

/-- Is `n` an Arabic digit of the eastern sort? -/
def isEasternArabicDigit (n : Nat) : Bool := 0x6F0 ≤ n && n ≤ 0x6F9

/-- Is a character allowed in `label`, after `before`, nearest first, and before `rest`? -/
def hasItsPlace (label before : List Char) (c : Char) (rest : List Char) : Bool :=
  let n := c.toNat
  if isJoiner c then joinerFits before c rest
  else if n == 0xB7 then before.head? == some 'l' && rest.head? == some 'l'
  else if n == 0x375 then rest.head?.any fun d => greekChart.contains d.toNat
  else if n == 0x5F3 || n == 0x5F4 then before.head?.any fun d => hebrewChart.contains d.toNat
  else if n == 0x30FB then label.any fun d => d.toNat != 0x30FB && kanaChart.contains d.toNat
  else if isWesternArabicDigit n then !label.any fun d => isEasternArabicDigit d.toNat
  else if isEasternArabicDigit n then !label.any fun d => isWesternArabicDigit d.toNat
  else isLetterLike c

/-- Are all characters of a label allowed where they stand? -/
def haveTheirPlaces (label before : List Char) : List Char → Bool
  | [] => true
  | c :: rest => hasItsPlace label before c rest && haveTheirPlaces label (c :: before) rest

end Intake.Net
