import Intake.Value.Equality
import Intake.Yaml.Node
import Intake.Yaml.Scalar

/-!
# Values of YAML

The value that a text writes.  Mappings take in the entries of others under the key `<<`; their
own entries go after those, and of two entries with one key the last counts.

Of several flaws in a tree the one nearest to the root counts, and among those the first.

* `Node.value?` gives the value of a node, `valueOf?` that of a text;
* a text without any node stands for nothing, as an empty node does.
-/

namespace Intake.Yaml

/-- A flaw with the number of steps from the root at which it is, or what is built. -/
abbrev Built (α : Type) := Except (Nat × Flaw) α

namespace Built

variable {α β : Type}

/-- Two parts of one node; of two flaws the one nearer to the root counts. -/
def both (x : Built α) (y : Built β) : Built (α × β) :=
  match x, y with
  | .ok a, .ok b => .ok (a, b)
  | .error e, .ok _ => .error e
  | .ok _, .error e => .error e
  | .error e, .error f => .error (if f.1 < e.1 then f else e)

/-- All parts of a node. -/
def all : List (Built α) → Built (List α)
  | [] => .ok []
  | x :: rest => (both x (all rest)).map fun e => e.1 :: e.2

/-- A part at some depth. -/
def at_ (depth : Nat) (x : Except Flaw α) : Built α := x.mapError fun f => (depth, f)

end Built

namespace Node

/-- The entries of a mapping other than those for taking in; an equals sign as a key is text. -/
def ownEntries : List (Node × Node) → List (Node × Node)
  | [] => []
  | (k, v) :: rest =>
    match k.tag, k with
    | .merge, _ => ownEntries rest
    | .value, .scalar _ text => (.scalar .text text, v) :: ownEntries rest
    | _, _ => (k, v) :: ownEntries rest

mutual

/-- The entries of a mapping, with those that it takes in. -/
def allEntries? : Node → Except Flaw (List (Node × Node))
  | .mapping _ entries => do
    let takenIn ← takenIn? entries
    return takenIn ++ ownEntries entries
  | _ => .error .malformed

/-- The entries that a mapping takes in. -/
def takenIn? : List (Node × Node) → Except Flaw (List (Node × Node))
  | [] => .ok []
  | (k, v) :: rest => do
    let here ← if k.tag = .merge then offered? v else pure []
    let later ← takenIn? rest
    return here ++ later

/-- The entries that a mapping, or a sequence of mappings, offers; of several mappings the
first one goes last, so that it counts. -/
def offered? : Node → Except Flaw (List (Node × Node))
  | .mapping tag entries => allEntries? (.mapping tag entries)
  | .sequence _ items => offeredByAll? items
  | .scalar .. => .error .malformed

/-- The entries that some mappings offer, those of the first one last. -/
def offeredByAll? : List Node → Except Flaw (List (Node × Node))
  | [] => .ok []
  | n :: rest => do
    let here ← allEntries? n
    let later ← offeredByAll? rest
    return later ++ here

end

/-- The text of a scalar; a mapping with the key `=` stands for the scalar under it. -/
def scalarText? : Node → Option String
  | .scalar _ text => some text
  | .sequence .. => none
  | .mapping _ entries => underEquals? entries
where
  /-- The text of the first value under the key `=`. -/
  underEquals? : List (Node × Node) → Option String
    | [] => none
    | (k, v) :: rest => if k.tag = .value then scalarText? v else underEquals? rest

/-- Is a node a collection by its tag, and so no key? -/
def isCollection (n : Node) : Bool :=
  [.list, .map, .set, .orderedMap, .pairs].contains n.tag

/-- The value of a node some steps from the root. -/
def valueFrom (fuel depth : Nat) (n : Node) : Built Value :=
  match fuel with
  | 0 => .error (depth, .malformed)
  | fuel + 1 =>
    let part (n : Node) : Built Value := valueFrom fuel (depth + 1) n
    let bad {α : Type} : Built α := .error (depth + 1, .malformed)
    let entry (e : Node × Node) : Built (Value × Value) :=
      if e.1.isCollection then bad else (part e.1).both (part e.2)
    let entries : Built (List (Value × Value)) := do
      let all ← Built.at_ (depth + 1) n.allEntries?
      let found ← Built.all (all.map entry)
      return found.foldl (fun kept e => Value.setEntry e.1 e.2 kept) []
    let pair : Node → Built Value
      | .mapping _ [(k, v)] => ((part k).both (part v)).map fun e => .tuple [e.1, e.2]
      | _ => bad
    match n.tag, n with
    | .list, .sequence _ items => (Built.all (items.map part)).map .list
    | .list, _ => bad
    | .map, _ => entries.map .dict
    | .set, _ => entries.map fun es => .set (es.map Prod.fst)
    | .orderedMap, .sequence _ items | .pairs, .sequence _ items =>
      (Built.all (items.map pair)).map .list
    | .orderedMap, _ | .pairs, _ => bad
    | tag, _ =>
      Built.at_ depth (match n.scalarText? with
        | some text => scalarValue? tag text
        | none => .error .malformed)

/-- The value of a node. -/
def value? (n : Node) : Except Flaw Value :=
  (valueFrom (n.height + 1) 0 n).mapError Prod.snd

end Node

/-- The value that a text writes; its line ends are line feeds. -/
def valueOf? (text : String) : Except Flaw Value := do
  let cs := text.toList
  if !cs.all isPrintable then throw .malformed
  match ← document? cs with
  | some n => n.value?
  | none => return .null

end Intake.Yaml
