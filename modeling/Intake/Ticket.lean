import Intake.Text.Blank
import Intake.Text.Digit

/-!
# Tickets

A ticket has a **key**, capital letters, a dash and digits, and a **link** that ends in the
key.

* `Ticket.isKey` and `Ticket.isLink` recognise the two, blanks around them aside;
* `Ticket.keyIn?` finds the first key in a link.
-/

namespace Intake.Ticket

open Text

/-- Is `c` one of `A` to `Z`? -/
def isCapital (c : Char) : Bool := 'A' ≤ c && c ≤ 'Z'

/-- Takes a key off the front, with as many digits as there are. -/
def takeKey? (cs : List Char) : Option (List Char × List Char) :=
  let letters := cs.takeWhile isCapital
  match cs.dropWhile isCapital with
  | '-' :: rest =>
    let digits := rest.takeWhile isDecimal
    if letters.isEmpty || digits.isEmpty then none
    else some (letters ++ '-' :: digits, rest.dropWhile isDecimal)
  | _ => none

/-- Is all of `cs` a key? -/
def isKeyChars (cs : List Char) : Bool :=
  match takeKey? cs with
  | some (_, rest) => rest.isEmpty
  | none => false

/-- What follows a fixed beginning. -/
def after? : List Char → List Char → Option (List Char)
  | [], cs => some cs
  | a :: start, c :: cs => if a = c then after? start cs else none
  | _ :: _, [] => none

/-- How a link starts. -/
def linkStart : List Char := "https://".toList

/-- What stands between the site and the key of a link. -/
def linkMiddle : List Char := ".atlassian.net/browse/".toList

/-- Does `cs` go on to the middle of a link and a key, without a line feed before them? -/
def endsInKey : List Char → Bool
  | [] => false
  | c :: rest =>
    (match after? linkMiddle (c :: rest) with
     | some key => isKeyChars key
     | none => false) || (c != '\n' && endsInKey rest)

/-- Is the text a link to a ticket? -/
def isLink (s : String) : Bool :=
  match after? linkStart (stripChars s.toList) with
  | some rest => endsInKey rest
  | none => false

/-- Is the text the key of a ticket? -/
def isKey (s : String) : Bool := isKeyChars (stripChars s.toList)

/-- What stands before a key inside a link. -/
def keyMark : List Char := "/browse/".toList

/-- The first key after its mark. -/
def keyInChars? : List Char → Option (List Char)
  | [] => none
  | c :: rest =>
    match (after? keyMark (c :: rest)).bind takeKey? with
    | some (key, _) => some key
    | none => keyInChars? rest

/-- The first key in a link. -/
def keyIn? (s : String) : Option String := (keyInChars? s.toList).map String.ofList

end Intake.Ticket
