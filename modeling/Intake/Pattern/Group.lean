import Intake.Number.Numeral
import Intake.Pattern.Escape
import Intake.Pattern.OptionChange

/-!
# What groups are for

A parenthesis opens a group.  `groupSort` reads what stands between it and the contents: whether
the group is captured, and under which name, looks ahead or behind, asks about another group, or
changes options.
-/

namespace Intake.Pattern

/-- Opens a group, with a name if it has one. -/
def openGroup (name? : Option String) : Reader Nat := do
  let r ← get
  let group := r.groups
  set { r with widths := r.widths ++ [none] }
  match name? with
  | none => return group
  | some name =>
    match r.names.lookup name with
    | some before => refuse (.redefinedGroup name group before) (name.length + 1)
    | none =>
      modify fun r => { r with names := r.names ++ [(name, group)] }
      return group

/-- Closes a group. -/
def closeGroup (group : Nat) (body : Node) : Reader Unit :=
  modify fun r => { r with widths := r.widths.set (group - 1) (some body.width) }

/-- Takes a closing parenthesis of a group that was opened at `start`. -/
def closing (start : Nat) : Reader Unit := do
  unless ← takeIf ')' do refuseAt .unterminatedGroup start

/-- Refuses a text that is not a name. -/
def guardName (name : String) : Reader Unit := do
  unless Text.isName name do refuse (.badNameCharacter name) (name.length + 1)

/-- A look back at a group by its name. -/
def namedGroup : Reader Node := do
  let name ← takeName (← stepsLeft) ')' "group name" []
  guardName name
  let r ← get
  match r.names.lookup name with
  | none => refuse (.unknownGroup name) (name.length + 1)
  | some group =>
    match r.closed? group with
    | none => refuse .openGroup (name.length + 1)
    | some (low, high) =>
      guardBehind group
      return .same r.options.mode group low high

/-- The group that a condition asks about. -/
def conditionGroup : Reader Nat := do
  let name ← takeName (← stepsLeft) ')' "group name" []
  let r ← get
  let back := name.length + 1
  if Text.isName name then
    match r.names.lookup name with
    | none => refuse (.unknownGroup name) back
    | some group => return group
  else
    match Numeral.readInt name with
    | .ok (.ofNat group) =>
      if group = 0 then refuse .badGroupNumber back
      else if 1073741823 ≤ group then refuse (.invalidGroup group) back
      else
        if (r.numbered.lookup group).isNone then
          set { r with numbered := r.numbered ++ [(group, r.place - back)] }
        return group
    | _ => refuse (.badNameCharacter name) back

/-- Skips a comment that runs to a closing parenthesis. -/
def skipComment (fuel start : Nat) : Reader Unit :=
  match fuel with
  | 0 => refuseAt .unterminatedComment start
  | fuel + 1 => do
    match ← take with
    | none => refuseAt .unterminatedComment start
    | some cs => if cs = [')'] then return () else skipComment fuel start

/-- Skips a comment that runs to the end of its line. -/
def skipLine (fuel : Nat) : Reader Unit :=
  match fuel with
  | 0 => return ()
  | fuel + 1 => do
    match ← take with
    | none => return ()
    | some cs => if cs = ['\n'] then return () else skipLine fuel

/-- What a group is for. -/
inductive GroupSort where
  | captured (name? : Option String)
  | plain (on off : List Char)
  | atomic
  | look (behind negated : Bool)
  | condition (group : Nat)
  | ready (node : Node)
  | nothing

/-- What a group with a `P` after its question mark is for. -/
def extendedSort : Reader GroupSort := do
  if ← takeIf '<' then
    let name ← takeName (← stepsLeft) '>' "group name" []
    guardName name
    return .captured (some name)
  if ← takeIf '=' then return .ready (← namedGroup)
  match ← take with
  | none => refuse .unexpectedEnd 0
  | some cs => refuse (.unknownExtension ("P" ++ String.ofList cs)) (cs.length + 2)

/-- What a group that was opened at `start` is for.  `fresh` says whether nothing has been
read before it. -/
def groupSort (start : Nat) (fresh : Bool) : Reader GroupSort := do
  unless ← takeIf '?' do return .captured none
  match ← take with
  | none => refuse .unexpectedEnd 0
  | some ['P'] => extendedSort
  | some [':'] => return .plain [] []
  | some ['#'] =>
    skipComment (← stepsLeft) start
    return .nothing
  | some ['='] => return .look false false
  | some ['!'] => return .look false true
  | some ['<'] =>
    match ← take with
    | none => refuse .unexpectedEnd 0
    | some ['='] => return .look true false
    | some ['!'] => return .look true true
    | some cs => refuse (.unknownExtension ("<" ++ String.ofList cs)) (cs.length + 2)
  | some ['('] =>
    let group ← conditionGroup
    guardBehind group
    return .condition group
  | some ['>'] => return .atomic
  | some [c] =>
    if isOptionLetter c || c = '-' then
      match ← optionChange c with
      | .forAll on =>
        unless fresh do refuseAt .lateOptions start
        modify fun r => { r with options := r.options.put true on }
        return .nothing
      | .within on off => return .plain on off
    else refuse (.unknownExtension (String.ofList [c])) 2
  | some cs => refuse (.unknownExtension (String.ofList cs)) (cs.length + 1)

end Intake.Pattern
