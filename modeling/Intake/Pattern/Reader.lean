import Intake.Pattern.CharSet
import Intake.Pattern.Group
import Intake.Pattern.Repetition

/-!
# Reading patterns

Main definition: `read`, which gives the pattern that a text writes or says where and why it is
refused.  Options that a group changes end with it.
-/

namespace Intake.Pattern

/-- Runs a reader under other options and goes back to those in force. -/
def under {α : Type} (options : Options) (reader : Reader α) : Reader α := do
  let saved := (← get).options
  modify fun r => { r with options := options }
  let result ← reader
  modify fun r => { r with options := saved }
  return result

mutual

/-- Alternatives, up to a closing parenthesis or the end. -/
def readChoice (fuel : Nat) (top : Bool) : Reader Node :=
  match fuel with
  | 0 => refuse .unexpectedEnd 0
  | fuel + 1 => do
    let first ← readSequence fuel top []
    let rest ← readBranches fuel
    if rest.isEmpty then return first else return .choice (first :: rest)

/-- The alternatives after the first. -/
def readBranches (fuel : Nat) : Reader (List Node) :=
  match fuel with
  | 0 => return []
  | fuel + 1 => do
    if ← takeIf '|' then
      let branch ← readSequence fuel false []
      return branch :: (← readBranches fuel)
    else return []

/-- Parts one after another; `parts` holds those read so far, last first.  `first` says
whether options for the whole pattern may stand here. -/
def readSequence (fuel : Nat) (first : Bool) (parts : List Node) : Reader Node :=
  match fuel with
  | 0 => refuse .unexpectedEnd 0
  | fuel + 1 => do
    let here := (← get).place
    match ← peek with
    | none | some ['|'] | some [')'] => return .sequence parts.reverse
    | some this =>
      let _ ← take
      let options := (← get).options
      match this with
      | ['\\', c] => readSequence fuel first ((← escape c) :: parts)
      | ['['] => readSequence fuel first ((← readSet here) :: parts)
      | ['?'] => readSequence fuel first (← repeatLast here 0 (some 1) parts)
      | ['*'] => readSequence fuel first (← repeatLast here 0 none parts)
      | ['+'] => readSequence fuel first (← repeatLast here 1 none parts)
      | ['\x7b'] =>
        let literal : Node := .char options.mode false '\x7b'.toNat
        if (← peek) = some ['\x7d'] then readSequence fuel first (literal :: parts)
        else
          match ← braceCounts with
          | none => readSequence fuel first (literal :: parts)
          | some (least, most) =>
            readSequence fuel first (← repeatLast here least most parts)
      | ['.'] => readSequence fuel first (.any options.pointTakesAll :: parts)
      | ['^'] =>
        readSequence fuel first (.at (if options.lines then .lineStart else .start) :: parts)
      | ['$'] =>
        readSequence fuel first (.at (if options.lines then .lineFinish else .finish) :: parts)
      | ['('] =>
        let sort ← groupSort here (first && parts.isEmpty)
        match ← readGroup fuel here sort with
        | none => readSequence fuel first parts
        | some node => readSequence fuel first (node :: parts)
      | [c] =>
        if options.verbose && (c = ' ' || (9 ≤ c.toNat && c.toNat ≤ 13)) then
          readSequence fuel first parts
        else if options.verbose && c = '#' then
          skipLine (← stepsLeft)
          readSequence fuel first parts
        else readSequence fuel first (.char options.mode false c.toNat :: parts)
      | _ => readSequence fuel first parts

/-- The contents of a group that was opened at `start`, with its closing parenthesis. -/
def readGroup (fuel start : Nat) (sort : GroupSort) : Reader (Option Node) :=
  match fuel with
  | 0 => refuse .unexpectedEnd 0
  | fuel + 1 => do
    match sort with
    | .nothing => return none
    | .ready node => return some node
    | .captured name? =>
      let group ← openGroup name?
      let body ← readChoice fuel false
      closing start
      closeGroup group body
      return some (.group group body)
    | .plain on off =>
      let options := (← get).options.within on off
      let body ← under options (readChoice fuel false)
      closing start
      return some (.sequence [body])
    | .atomic =>
      let body ← readChoice fuel false
      closing start
      return some (.atomic body)
    | .look behind negated =>
      let before := (← get).behindLimit
      if behind && before.isNone then
        modify fun r => { r with behindLimit := some r.groups }
      let body ← readChoice fuel false
      if behind && before.isNone then
        modify fun r => { r with behindLimit := none }
      closing start
      return some (.look (if behind then some body.width.1 else none) negated body)
    | .condition group =>
      let yes ← readSequence fuel false []
      let no ←
        if ← takeIf '|' then
          let no ← readSequence fuel false []
          if (← peek) = some ['|'] then refuse .tooManyBranches 0
          pure no
        else pure (.sequence [])
      closing start
      return some (.ifGroup group yes no)

end

/-- The name of a sort of repetition. -/
def Greed.name : Greed → String
  | .greedy => "MAX_REPEAT"
  | .lazy => "MIN_REPEAT"
  | .possessive => "POSSESSIVE_REPEAT"

mutual

/-- Refuses what can be read but not run: looking behind by a length that varies. -/
def Node.check (template : Bool) : Node → Except PatternError Unit
  | .sequence parts | .choice parts => checkAll template parts
  | .repeated greed _ _ body =>
    if template then .error (.problem (.templateRepeat greed.name) none) else body.check template
  | .group _ body | .atomic body => body.check template
  | .look behind _ body =>
    let (low, high) := body.width
    if behind.isSome && 4294967295 < low then .error (.problem .lookBehindTooLong none)
    else if behind.isSome && low != high then .error (.problem .lookBehindVaries none)
    else body.check template
  | .ifGroup _ yes no => do
    yes.check template
    no.check template
  | _ => .ok ()

/-- The same for a list of nodes, in order. -/
def checkAll (template : Bool) : List Node → Except PatternError Unit
  | [] => .ok ()
  | n :: rest => do
    n.check template
    checkAll template rest

end

/-- The whole of a pattern. -/
def readWhole : Reader Node := do
  guardDangling
  let node ← readChoice (4 * (← stepsLeft) + 4) true
  let r ← get
  if r.options.ascii && r.options.unicode then throw .charactersClash
  if !r.rest.isEmpty then refuse .unbalancedParenthesis 0
  match r.numbered.find? fun e => r.groups ≤ e.1 with
  | some (group, place) => refuseAt (.invalidGroup group) place
  | none => return node

/-- The pattern that a text writes. -/
def read (text : String) : Except PatternError Node := do
  let start : Reading :=
    { rest := tokensFrom 0 text.toList, finish := text.length, options := {}, widths := [],
      names := [], behindLimit := none, numbered := [] }
  let (node, r) ← readWhole.run start
  node.check r.options.template
  return node

end Intake.Pattern
