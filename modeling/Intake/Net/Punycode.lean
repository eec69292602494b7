/-!
# Labels in ASCII

A label beyond ASCII travels as ASCII: its ASCII characters first, then, after a dash, a row of
numbers.  Each number says how far to go on, over code points and places in the label
together, to where the next character is put in.  Numbers are written in base 36 with the
least digit first; where a number ends is told by thresholds that adapt to the numbers before.

* `encode` writes a label, `decode?` reads one.
-/

namespace Intake.Net.Punycode

/-- A digit. -/
def digitChar (d : Nat) : Char :=
  if d < 26 then Char.ofNat ('a'.toNat + d) else Char.ofNat ('0'.toNat + (d - 26))

/-- The value of a digit. -/
def digitValue? (c : Char) : Option Nat :=
  if 'a' ≤ c ∧ c ≤ 'z' then some (c.toNat - 'a'.toNat)
  else if 'A' ≤ c ∧ c ≤ 'Z' then some (c.toNat - 'A'.toNat)
  else if '0' ≤ c ∧ c ≤ '9' then some (c.toNat - '0'.toNat + 26)
  else none

/-- The threshold of the digit at place `k`, counted in steps of 36. -/
def threshold (k bias : Nat) : Nat :=
  if k ≤ bias then 1 else if bias + 26 ≤ k then 26 else k - bias

/-- No threshold is zero, so each digit but the last counts. -/
theorem threshold_pos (k bias : Nat) : 0 < threshold k bias := by
  unfold threshold; split
  · omega
  · split <;> omega

/-- No threshold is above 26, so digits have room above it. -/
theorem threshold_le (k bias : Nat) : threshold k bias ≤ 26 := by
  unfold threshold; split
  · omega
  · split <;> omega

/-- Scales a distance down, and says how often in steps of 36. -/
def scaleDown (delta k : Nat) : Nat × Nat :=
  if 455 < delta then scaleDown (delta / 35) (k + 36) else (delta, k)
termination_by delta
decreasing_by exact Nat.div_lt_self (by omega) (by omega)

/-- The bias after a distance has been written with `count` characters in place. -/
def adapt (delta count : Nat) (first : Bool) : Nat :=
  let delta := if first then delta / 700 else delta / 2
  let (delta, k) := scaleDown (delta + delta / count) 0
  k + 36 * delta / (delta + 38)

/-- The digits of a number. -/
def digits (bias k q : Nat) : List Char :=
  let t := threshold k bias
  if q < t then [digitChar q]
  else digitChar (t + (q - t) % (36 - t)) :: digits bias (k + 36) ((q - t) / (36 - t))
termination_by q
decreasing_by
  have hpos := threshold_pos k bias
  have hle := threshold_le k bias
  calc (q - threshold k bias) / (36 - threshold k bias)
      ≤ q - threshold k bias := Nat.div_le_self _ _
    _ < q := by omega

/-- The first code point beyond ASCII. -/
def firstCode : Nat := 128

/-- What has been written, and the state of the numbers. -/
structure Writing where
  done : List Char
  delta : Nat
  bias : Nat
  count : Nat

/-- Passes one character of the label while the code point `code` is being put in. -/
def Writing.pass (basic code : Nat) (w : Writing) (c : Char) : Writing :=
  if c.toNat < code then { w with delta := w.delta + 1 }
  else if c.toNat = code then
    { done := w.done ++ digits w.bias 36 w.delta
      delta := 0
      bias := adapt w.delta (w.count + 1) (w.count == basic)
      count := w.count + 1 }
  else w

/-- Puts in code points in rising order, of which those below `from_` are in place. -/
def writeCodes (label : List Char) (basic : Nat) (from_ : Nat) (w : Writing) :
    List Nat → Writing
  | [] => w
  | code :: rest =>
    let w := { w with delta := w.delta + (code - from_) * (w.count + 1) }
    let w := label.foldl (Writing.pass basic code) w
    writeCodes label basic (code + 1) { w with delta := w.delta + 1 } rest

/-- A label in ASCII. -/
def encode (label : List Char) : List Char :=
  let basic := label.filter fun c => c.toNat < firstCode
  let codes := (label.map Char.toNat).filter (firstCode ≤ ·)
  let w := writeCodes label basic.length firstCode ⟨[], 0, 72, basic.length⟩
    (codes.mergeSort (· ≤ ·)).eraseDups
  (if basic.isEmpty then [] else basic ++ ['-']) ++ w.done

/-- What has been read: the label so far, and the state of the numbers.  `weight` and `place`
belong to the number that is being read, which started from `start` and has come to `i`. -/
structure Reading where
  label : List Char
  code : Nat
  bias : Nat
  start : Nat
  i : Nat
  weight : Nat
  place : Nat

/-- Is no number being read? -/
def Reading.isSettled (r : Reading) : Bool := r.place == 36

/-- Puts in the character to which a finished number leads. -/
def Reading.settle? (r : Reading) : Option Reading :=
  let count := r.label.length + 1
  let code := r.code + r.i / count
  let at_ := r.i % count
  if code.isValidChar then
    some
      { label := r.label.take at_ ++ Char.ofNat code :: r.label.drop at_
        code := code
        bias := adapt (r.i - r.start) count (r.start == 0)
        start := at_ + 1
        i := at_ + 1
        weight := 1
        place := 36 }
  else none

/-- Reads one digit. -/
def Reading.step? (r : Reading) (c : Char) : Option Reading := do
  let d ← digitValue? c
  let t := threshold r.place r.bias
  let r := { r with i := r.i + d * r.weight }
  if d < t then r.settle?
  else some { r with weight := r.weight * (36 - t), place := r.place + 36 }

/-- The characters before the last dash, and those after it. -/
def splitAtDash (cs : List Char) : List Char × List Char :=
  if cs.contains '-' then
    let after := (cs.reverse.takeWhile (· ≠ '-')).reverse
    (cs.take (cs.length - after.length - 1), after)
  else ([], cs)

/-- The label that ASCII writes. -/
def decode? (cs : List Char) : Option (List Char) := do
  let (basic, numbers) := splitAtDash cs
  if !basic.all (fun c => c.toNat < firstCode) then none
  else
    let r ← numbers.foldlM Reading.step? ⟨basic, firstCode, 72, 0, 0, 1, 36⟩
    if r.isSettled then some r.label else none

end Intake.Net.Punycode
