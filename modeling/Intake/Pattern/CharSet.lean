import Intake.Pattern.Escape

/-!
# Sets of characters

A set stands between brackets and lists characters, ranges and classes; a closing bracket that
comes first is one of its characters.
-/

namespace Intake.Pattern

/-- A token inside a set. -/
def setToken (cs : List Char) : Reader SetItem :=
  match cs with
  | ['\\', c] => setEscape c
  | c :: _ => return .char c.toNat
  | [] => return .char 0

/-- The members of a set that starts at `here`, up to its closing bracket. -/
def setItems (fuel here : Nat) (sofar : List SetItem) : Reader (List SetItem) :=
  match fuel with
  | 0 => refuseAt .unterminatedSet here
  | fuel + 1 => do
    match ← take with
    | none => refuseAt .unterminatedSet here
    | some this =>
      if this = [']'] ∧ !sofar.isEmpty then return sofar
      else
        let first ← setToken this
        if ← takeIf '-' then
          match ← take with
          | none => refuseAt .unterminatedSet here
          | some that =>
            if that = [']'] then return sofar ++ [first, .char '-'.toNat]
            else
              let second ← setToken that
              let bad : Reader (List SetItem) :=
                refuse (.badRange (String.ofList this) (String.ofList that))
                  (this.length + 1 + that.length)
              match first, second with
              | .char low, .char high =>
                if high < low then bad
                else setItems fuel here (sofar ++ [.range low high])
              | _, _ => bad
        else setItems fuel here (sofar ++ [first])

/-- A set whose opening bracket stands at `here`. -/
def readSet (here : Nat) : Reader Node := do
  let mode := (← get).options.mode
  let negated ← takeIf '^'
  match (← setItems (← stepsLeft) here []).eraseDups with
  | [.char c] => return .char mode negated c
  | items => return .oneOf mode negated items

end Intake.Pattern
