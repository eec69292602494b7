/-!
# Patterns

A pattern describes texts: characters and sets of them, alternatives, repetitions, groups that
remember what they took, and looks at what stands around.  Options (ignore case, ASCII only,
lines, points that take line feeds) are settled while a pattern is read, so every node says
how it compares.

`Node.width` is the least and the greatest length of what a node takes; looking behind is
possible only where the two agree.
-/

namespace Intake.Pattern

/-- How characters are compared. -/
structure Mode where
  ignoreCase : Bool
  ascii : Bool
deriving DecidableEq, Repr

/-- Classes of characters with a letter of their own. -/
inductive Category where
  | digit | notDigit | blank | notBlank | word | notWord
deriving DecidableEq, Repr

/-- A member of a set of characters. -/
inductive SetItem where
  | char (c : Nat)
  | range (low high : Nat)
  | category (c : Category)
deriving DecidableEq, Repr

/-- A place in the text. -/
inductive Place where
  | start
  | lineStart
  | finish
  | lineFinish
  | textFinish
  | wordEdge (ascii : Bool)
  | notWordEdge (ascii : Bool)
deriving DecidableEq, Repr

/-- How eagerly a repetition takes: as much as it can, as little, or as much without giving
any back. -/
inductive Greed where
  | greedy | lazy | possessive
deriving DecidableEq, Repr

/-- A pattern. -/
inductive Node where
  | char (mode : Mode) (negated : Bool) (c : Nat)
  | any (withLineFeed : Bool)
  | oneOf (mode : Mode) (negated : Bool) (items : List SetItem)
  | at (place : Place)
  | sequence (parts : List Node)
  | choice (branches : List Node)
  | repeated (greed : Greed) (least : Nat) (most : Option Nat) (body : Node)
  | group (index : Nat) (body : Node)
  | atomic (body : Node)
  | same (mode : Mode) (index low high : Nat)
  | look (behind : Option Nat) (negated : Bool) (body : Node)
  | ifGroup (index : Nat) (yes no : Node)

/-- Widths are not counted beyond this. -/
def widthCap : Nat := 1 <<< 64

mutual

/-- The least and the greatest length of what a node takes. -/
def Node.width : Node → Nat × Nat
  | .char .. | .any _ | .oneOf .. => (1, 1)
  | .at _ | .look .. => (0, 0)
  | .sequence parts => widthOfAll parts
  | .choice branches => widthOfAny branches
  | .repeated _ least most body =>
    let (low, high) := body.width
    (min (low * least) widthCap,
     match most with
     | some n => min (high * n) widthCap
     | none => if high = 0 then 0 else widthCap)
  | .group _ body | .atomic body => body.width
  | .same _ _ low high => (low, high)
  | .ifGroup _ yes no =>
    let (low, high) := yes.width
    let (low', high') := no.width
    (min low low', max high high')

/-- The width of parts one after another. -/
def widthOfAll : List Node → Nat × Nat
  | [] => (0, 0)
  | n :: rest =>
    let (low, high) := n.width
    let (low', high') := widthOfAll rest
    (min (low + low') widthCap, min (high + high') widthCap)

/-- The width of whichever of some branches is taken. -/
def widthOfAny : List Node → Nat × Nat
  | [] => (widthCap, 0)
  | n :: rest =>
    let (low, high) := n.width
    let (low', high') := widthOfAny rest
    (min low low', max high high')

end

/-- Is the node a place rather than something that takes characters? -/
def Node.isPlace : Node → Bool
  | .at _ => true
  | _ => false

/-- Is the node a repetition? -/
def Node.isRepeated : Node → Bool
  | .repeated .. => true
  | _ => false

end Intake.Pattern
