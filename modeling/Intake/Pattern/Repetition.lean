import Intake.Pattern.Escape

/-!
# Repetitions

A mark after a part says how often it is repeated, and perhaps how eagerly.
-/

namespace Intake.Pattern

/-- A repetition count beyond this is refused. -/
def repeatCap : Nat := 4294967295

/-- A count that digits write. -/
def countOf (ds : List Char) : Reader Nat :=
  let n := ofBase 10 ds
  if repeatCap ≤ n then throw .repetitionTooLarge else return n

/-- The least and greatest count between braces, or nothing if the brace stands for itself. -/
def braceCounts : Reader (Option (Nat × Option Nat)) := do
  let saved ← get
  let low ← takeWhile (← stepsLeft) Char.isDigit
  let comma ← takeIf ','
  let high ← if comma then takeWhile (← stepsLeft) Char.isDigit else pure low
  if ← takeIf '\x7d' then
    let least ← if low.isEmpty then pure 0 else countOf low
    if high.isEmpty then return some (least, none)
    else
      let most ← countOf high
      if most < least then refuseAt .leastAboveMost saved.place
      else return some (least, some most)
  else
    set saved
    return none

/-- Reads how eagerly a repetition takes. -/
def readGreed : Reader Greed := do
  if ← takeIf '?' then return .lazy
  if ← takeIf '+' then return .possessive
  return .greedy

/-- Repeats the node before, the last of the parts so far (in reverse), as `least` to `most`.
`here` is where the mark of repetition stands. -/
def repeatLast (here least : Nat) (most : Option Nat) (parts : List Node) :
    Reader (List Node) := do
  match parts with
  | [] => refuseAt .nothingToRepeat here
  | last :: before =>
    if last.isPlace then refuseAt .nothingToRepeat here
    else if last.isRepeated then refuseAt .multipleRepeat here
    else
      return .repeated (← readGreed) least most last :: before

end Intake.Pattern
