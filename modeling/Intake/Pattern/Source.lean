import Intake.Pattern.Options
import Intake.Pattern.Problem

/-!
# A pattern on its way

A pattern is cut into **tokens** first: a character, or a backslash with the character after
it.  A `Reader` goes through them once, keeping the options in force, the groups opened and
closed so far, and the names given to them.

* `take`, `takeIf`, `takeWhile`, `takeName` take tokens;
* `refuse` and `refuseAt` refuse the pattern, saying where.
-/

namespace Intake.Pattern

/-- A character, or a backslash with the character after it, and where it stands. -/
structure Token where
  place : Nat
  chars : List Char
deriving DecidableEq, Repr

/-- The tokens of a text whose first character stands at `place`.  A backslash at the very
end becomes a token of its own. -/
def tokensFrom (place : Nat) : List Char → List Token
  | '\\' :: c :: rest => ⟨place, ['\\', c]⟩ :: tokensFrom (place + 2) rest
  | c :: rest => ⟨place, [c]⟩ :: tokensFrom (place + 1) rest
  | [] => []

/-- What the reader knows. -/
structure Reading where
  rest : List Token
  finish : Nat
  options : Options
  widths : List (Option (Nat × Nat))
  names : List (String × Nat)
  behindLimit : Option Nat
  numbered : List (Nat × Nat)

/-- Reading, which may be refused. -/
abbrev Reader := StateT Reading (Except PatternError)

/-- Where the next token stands. -/
def Reading.place (r : Reading) : Nat :=
  match r.rest with
  | t :: _ => t.place
  | [] => r.finish

/-- The number of groups, the whole pattern among them. -/
def Reading.groups (r : Reading) : Nat := r.widths.length + 1

/-- The width of a group that has been closed. -/
def Reading.closed? (r : Reading) (group : Nat) : Option (Nat × Nat) :=
  if group = 0 then none else (r.widths[group - 1]?).join

/-- Is a backslash alone the next token? -/
def Reading.dangling (r : Reading) : Bool :=
  match r.rest with
  | t :: _ => t.chars == ['\\']
  | [] => false

/-- Refuses the pattern `back` characters before the next token. -/
def refuse {α : Type} (what : Problem) (back : Nat) : Reader α := do
  throw (.problem what (some ((← get).place - back)))

/-- Refuses the pattern at a place. -/
def refuseAt {α : Type} (what : Problem) (place : Nat) : Reader α :=
  throw (.problem what (some place))

/-- The next token, without taking it. -/
def peek : Reader (Option (List Char)) := do
  return ((← get).rest.head?).map Token.chars

/-- Fails if a lone backslash comes next. -/
def guardDangling : Reader Unit := do
  let r ← get
  if r.dangling then throw (.problem .danglingBackslash (some (r.finish - 1)))

/-- Takes the next token. -/
def take : Reader (Option (List Char)) := do
  let r ← get
  match r.rest with
  | [] => return none
  | t :: rest =>
    set { r with rest := rest }
    guardDangling
    return some t.chars

/-- Takes the next token if it is `c`. -/
def takeIf (c : Char) : Reader Bool := do
  if (← peek) = some [c] then
    let _ ← take
    return true
  else return false

/-- Takes up to `n` characters of a class. -/
def takeWhile (n : Nat) (p : Char → Bool) : Reader (List Char) :=
  match n with
  | 0 => return []
  | n + 1 => do
    match ← peek with
    | some [c] =>
      if p c then
        let _ ← take
        return c :: (← takeWhile n p)
      else return []
    | _ => return []

/-- Takes a name up to its terminator. -/
def takeName (fuel : Nat) (terminator : Char) (what : String) (sofar : List Char) :
    Reader String :=
  match fuel with
  | 0 => refuse .unexpectedEnd 0
  | fuel + 1 => do
    match ← take with
    | none =>
      if sofar.isEmpty then refuse (.missingName what) 0
      else refuse (.unterminatedName (String.ofList [terminator])) sofar.length
    | some cs =>
      if cs = [terminator] then
        if sofar.isEmpty then refuse (.missingName what) 1
        else return String.ofList sofar
      else takeName fuel terminator what (sofar ++ cs)

/-- As many steps as there are characters left, and one more. -/
def stepsLeft : Reader Nat := do
  let r ← get
  return r.finish + 1

end Intake.Pattern
