/-!
# Reading UTF-8

Octets are read strictly: no overlong forms, no surrogates, nothing above the last code
point.  The reader stops at the first octet that cannot be part of a text and says which
octets are at fault and why.

`ofOctets` reads a file's octets; `withPlainLines` turns every line end into a line feed.
-/

namespace Intake.Text.Utf8

/-- What is wrong with the octets. -/
inductive Flaw where
  | badStart
  | badContinuation
  | cutShort
deriving DecidableEq, Repr

/-- A flaw at octets `first` up to, not including, `next`, the first of which is `octet`. -/
structure DecodeError where
  octet : Nat
  first : Nat
  next : Nat
  flaw : Flaw
deriving DecidableEq, Repr

/-- How many octets follow a first octet, with the range its second octet is in. -/
def tailRule? (octet : Nat) : Option (Nat × Nat × Nat) :=
  if 0xC2 ≤ octet ∧ octet ≤ 0xDF then some (1, 0x80, 0xBF)
  else if octet = 0xE0 then some (2, 0xA0, 0xBF)
  else if octet = 0xED then some (2, 0x80, 0x9F)
  else if 0xE1 ≤ octet ∧ octet ≤ 0xEF then some (2, 0x80, 0xBF)
  else if octet = 0xF0 then some (3, 0x90, 0xBF)
  else if octet = 0xF4 then some (3, 0x80, 0x8F)
  else if 0xF1 ≤ octet ∧ octet ≤ 0xF3 then some (3, 0x80, 0xBF)
  else none

/-- Reads `count` octets of a tail onto `code`.  On a flaw, says how many were good. -/
def tail (count low high code good : Nat) : List Nat → Except (Nat × Flaw) (Nat × List Nat)
  | octets =>
    match count, octets with
    | 0, rest => .ok (code, rest)
    | _ + 1, [] => .error (good, .cutShort)
    | count + 1, octet :: rest =>
      if low ≤ octet ∧ octet ≤ high then
        tail count 0x80 0xBF (code * 64 + octet % 64) (good + 1) rest
      else .error (good, .badContinuation)

/-- The bits of a first octet that belong to the code point. -/
def leadBits (octet count : Nat) : Nat :=
  octet % (1 <<< (6 - count))

/-- Reads octets, the first of which stands at `place`. -/
def decodeFrom (fuel place : Nat) (octets : List Nat) : Except DecodeError (List Char) :=
  match fuel, octets with
  | 0, _ => .ok []
  | _, [] => .ok []
  | fuel + 1, octet :: rest =>
    if octet < 0x80 then
      (decodeFrom fuel (place + 1) rest).map (Char.ofNat octet :: ·)
    else
      match tailRule? octet with
      | none => .error ⟨octet, place, place + 1, .badStart⟩
      | some (count, low, high) =>
        match tail count low high (leadBits octet count) 0 rest with
        | .error (good, flaw) => .error ⟨octet, place, place + 1 + good, flaw⟩
        | .ok (code, more) =>
          (decodeFrom fuel (place + 1 + count) more).map (Char.ofNat code :: ·)

/-- The text that the octets write. -/
def ofOctets (octets : List Nat) : Except DecodeError String :=
  (decodeFrom octets.length 0 octets).map String.ofList

/-- Line ends as line feeds. -/
def plainLines : List Char → List Char
  | '\r' :: '\n' :: rest => '\n' :: plainLines rest
  | '\r' :: rest => '\n' :: plainLines rest
  | c :: rest => c :: plainLines rest
  | [] => []

/-- The text with every line end as a line feed. -/
def withPlainLines (s : String) : String :=
  String.ofList (plainLines s.toList)

/-- Why the octets were refused. -/
def Flaw.message : Flaw → String
  | .badStart => "invalid start byte"
  | .badContinuation => "invalid continuation byte"
  | .cutShort => "unexpected end of data"

/-- The message of a refusal: the octet if one is at fault, else the span. -/
def DecodeError.message (e : DecodeError) (hex : Nat → String) : String :=
  if e.next = e.first + 1 then
    "'utf-8' codec can't decode byte 0x" ++ hex e.octet ++ " in position " ++ toString e.first ++
      ": " ++ e.flaw.message
  else
    "'utf-8' codec can't decode bytes in position " ++ toString e.first ++ "-" ++
      toString (e.next - 1) ++ ": " ++ e.flaw.message

end Intake.Text.Utf8
