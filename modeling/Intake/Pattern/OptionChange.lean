import Intake.Pattern.Source
import Intake.Text.Name

/-!
# Changes of options

After a question mark, letters turn options on and, after a dash, off.  A parenthesis ends a
change for the whole pattern, a colon one for the group alone.
-/

namespace Intake.Pattern

/-- What turns options on or off. -/
inductive OptionChange where
  | forAll (on : List Char)
  | within (on off : List Char)

/-- Option letters that stand for a choice of character set. -/
def isCharactersOption (c : Char) : Bool := c = 'a' ∨ c = 'L' ∨ c = 'u'

/-- Refuses a token where an option letter should stand. -/
def badOption {α : Type} (otherwise : Problem) (cs : List Char) : Reader α :=
  match cs with
  | [c] => refuse (if Text.isLetter c then .unknownOption else otherwise) 1
  | _ => refuse otherwise cs.length

/-- The option letters that are turned on, starting with `c`, and what ended them. -/
def optionsOn (fuel : Nat) (c : Char) (on : List Char) : Reader (List Char × Char) :=
  match fuel with
  | 0 => refuse .missingOptionEnd 0
  | fuel + 1 => do
    if c = 'L' then refuse .localeOption 0
    else
      let on := on ++ [c]
      if isCharactersOption c && on.any (fun d => isCharactersOption d && d != c) then
        refuse .clashingOptions 0
      else
        match ← take with
        | none => refuse .missingOptionEnd 0
        | some [d] =>
          if d = ')' ∨ d = '-' ∨ d = ':' then return (on, d)
          else if isOptionLetter d then optionsOn fuel d on
          else badOption .missingOptionEnd [d]
        | some cs => badOption .missingOptionEnd cs

/-- The option letters that are turned off, starting with `c`. -/
def optionsOff (fuel : Nat) (c : Char) (off : List Char) : Reader (List Char) :=
  match fuel with
  | 0 => refuse .missingColon 0
  | fuel + 1 => do
    if isCharactersOption c then refuse .cannotTurnOffCharacters 0
    else
      let off := off ++ [c]
      match ← take with
      | none => refuse .missingColon 0
      | some [d] =>
        if d = ':' then return off
        else if isOptionLetter d then optionsOff fuel d off
        else badOption .missingColon [d]
      | some cs => badOption .missingColon cs

/-- A change of options whose first character is `c`. -/
def optionChange (c : Char) : Reader OptionChange := do
  let fuel ← stepsLeft
  let (on, ended) ← if c = '-' then pure ([], '-') else optionsOn fuel c []
  if ended = ')' then return .forAll on
  else if on.contains 't' then refuse .globalOptionOn 1
  else
    let off ←
      if ended = '-' then
        match ← take with
        | none => refuse .missingOption 0
        | some [d] =>
          if isOptionLetter d then optionsOff fuel d [] else badOption .missingOption [d]
        | some cs => badOption .missingOption cs
      else pure []
    if off.contains 't' then refuse .globalOptionOff 1
    else if on.any off.contains then refuse .optionOnAndOff 1
    else return .within on off

end Intake.Pattern
