import Intake.Net.HostName
import Intake.Text.Quoted

/-!
# Numeric addresses of hosts

A host whose last label is a number is an address of four octets, which may be written with
fewer parts, and in octal or hexadecimal.  An address of eight groups stands in brackets; a
row of zero groups may be left out once.

* `fourOctets?` reads an address of four octets as a number, `octetsText` writes it;
* `eightGroups?` reads an address of eight groups, `groupsText` writes it with the longest row
  of zero groups left out.
-/

namespace Intake.Net

/-- The value of a digit of some base up to 16. -/
def digitOf? (base : Nat) (c : Char) : Option Nat :=
  let d :=
    if '0' ≤ c ∧ c ≤ '9' then c.toNat - '0'.toNat
    else if 'a' ≤ c ∧ c ≤ 'f' then c.toNat - 'a'.toNat + 10
    else if 'A' ≤ c ∧ c ≤ 'F' then c.toNat - 'A'.toNat + 10
    else 16
  if d < base then some d else none

/-- The number that digits of a base write. -/
def numberOf? (base : Nat) (cs : List Char) : Option Nat :=
  cs.foldlM (fun n c => (digitOf? base c).map (n * base + ·)) 0

/-- A part of an address of four octets: a number in one of three bases. -/
def addressPart? : List Char → Option Nat
  | [] => none
  | '0' :: 'x' :: rest | '0' :: 'X' :: rest => numberOf? 16 rest
  | '0' :: c :: rest => numberOf? 8 (c :: rest)
  | cs => numberOf? 10 cs

/-- The labels of a name without an empty one at the end. -/
def withoutLastEmpty (parts : List (List Char)) : List (List Char) :=
  if parts.getLast? = some [] then parts.dropLast else parts

/-- Is the last label of a name a number? -/
def endsInNumber (name : List Char) : Bool :=
  match (withoutLastEmpty (labels name)).getLast? with
  | some last => (!last.isEmpty && last.all Char.isDigit) || (addressPart? last).isSome
  | none => false

/-- The number of parts: all but the last are octets, the last one fills what is left. -/
def joinParts? : List Nat → Nat → Option Nat
  | [], _ => none
  | [n], left => if n < 1 <<< (8 * left) then some n else none
  | n :: rest, left =>
    if n < 256 then (joinParts? rest (left - 1)).map (n <<< (8 * (left - 1)) + ·) else none

/-- The address of four octets that a name writes, as one number. -/
def fourOctets? (name : List Char) : Option Nat := do
  let parts := withoutLastEmpty (labels name)
  if 4 < parts.length then none
  else joinParts? (← parts.mapM addressPart?) 4

/-- An address of four octets, written as such. -/
def octetsText (n : Nat) : List Char :=
  let octets := [n >>> 24, (n >>> 16) % 256, (n >>> 8) % 256, n % 256]
  ['.'].intercalate (octets.map fun d => (toString d).toList)

/-- Groups that have been read, and how many stood before the row that was left out. -/
structure Groups where
  groups : List Nat
  gap : Option Nat

/-- An octet in decimal at the front, without leading zeros, and what follows. -/
def takeOctet? (cs : List Char) : Option (Nat × List Char) :=
  let ds := cs.takeWhile Char.isDigit
  match numberOf? 10 ds with
  | some n =>
    if ds.isEmpty || 255 < n || (ds.head? == some '0' && 1 < ds.length) then none
    else some (n, cs.dropWhile Char.isDigit)
  | none => none

/-- Four octets with points between them, as two groups. -/
def octetGroups? (cs : List Char) : Option (List Nat) := do
  let (a, cs) ← takeOctet? cs
  let cs ← if cs.head? = some '.' then some cs.tail else none
  let (b, cs) ← takeOctet? cs
  let cs ← if cs.head? = some '.' then some cs.tail else none
  let (c, cs) ← takeOctet? cs
  let cs ← if cs.head? = some '.' then some cs.tail else none
  let (d, cs) ← takeOctet? cs
  if cs.isEmpty then some [a * 256 + b, c * 256 + d] else none

/-- Reads groups from the front of `cs` on. -/
def readGroups? (fuel : Nat) (g : Groups) (cs : List Char) : Option Groups :=
  match fuel, cs with
  | _, [] => some g
  | 0, _ => none
  | fuel + 1, c :: rest =>
    if 8 ≤ g.groups.length then none
    else if c = ':' then
      if g.gap.isSome then none
      else readGroups? fuel ⟨g.groups ++ [0], some (g.groups.length + 1)⟩ rest
    else
      let isHexDigit (c : Char) : Bool := (digitOf? 16 c).isSome
      let ds := (cs.take 4).takeWhile isHexDigit
      let more := cs.drop ds.length
      let group := (numberOf? 16 ds).getD 0
      match more with
      | [] => some ⟨g.groups ++ [group], g.gap⟩
      | '.' :: _ =>
        if ds.isEmpty || 6 < g.groups.length then none
        else (octetGroups? cs).map fun last => ⟨g.groups ++ last, g.gap⟩
      | ':' :: after =>
        if after.isEmpty then none else readGroups? fuel ⟨g.groups ++ [group], g.gap⟩ after
      | _ => none

/-- The eight groups that an address in brackets writes. -/
def eightGroups? (cs : List Char) : Option (List Nat) := do
  let g ←
    match cs with
    | ':' :: ':' :: rest => readGroups? cs.length ⟨[0], some 1⟩ rest
    | ':' :: _ => none
    | [] | [_] => none
    | _ => readGroups? cs.length ⟨[], none⟩ cs
  match g.gap with
  | some gap =>
    some (g.groups.take gap ++ List.replicate (8 - g.groups.length) 0 ++ g.groups.drop gap)
  | none => if g.groups.length = 8 then some g.groups else none

/-- The longest row of zeros, the first of several: where it starts and how long it is. -/
def longestZeros (groups : List Nat) : Nat × Nat :=
  (List.range groups.length).foldl (fun best i =>
    let run := ((groups.drop i).takeWhile (· == 0)).length
    if best.2 < run then (i, run) else best) (0, 0)

/-- A number in hexadecimal without leading zeros. -/
def hexText (n : Nat) : List Char :=
  match (Text.hexDigits 4 n).dropWhile (· == '0') with
  | [] => ['0']
  | ds => ds

/-- Groups with colons between them. -/
def colonText (groups : List Nat) : List Char := [':'].intercalate (groups.map hexText)

/-- An address of eight groups, without its longest row of two or more zeros. -/
def groupsText (groups : List Nat) : List Char :=
  let (start, run) := longestZeros groups
  if run < 2 then colonText groups
  else colonText (groups.take start) ++ [':', ':'] ++ colonText (groups.drop (start + run))

end Intake.Net
