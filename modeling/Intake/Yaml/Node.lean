import Intake.Yaml.Layout
import Intake.Yaml.Tag

/-!
# Nodes of YAML

The tokens of a text form a tree: scalars, sequences, and mappings from node to node, each with
its tag.  A node with an anchor can be meant again by an alias; inside of itself, it stands there
without its items.

`document?` gives the tree of a text, which holds one document or nothing.
-/

namespace Intake.Yaml

/-- A node: a scalar, a sequence or a mapping. -/
inductive Node where
  | scalar (tag : Tag) (text : String)
  | sequence (tag : Tag) (items : List Node)
  | mapping (tag : Tag) (entries : List (Node × Node))

namespace Node

/-- The tag of a node. -/
def tag : Node → Tag
  | .scalar tag _ | .sequence tag _ | .mapping tag _ => tag

/-- The node that stands where nothing is written. -/
def empty : Node := .scalar .null ""

mutual

/-- The greatest number of steps from a node into its parts. -/
def height : Node → Nat
  | .scalar .. => 0
  | .sequence _ items => heightOfItems items + 1
  | .mapping _ entries => heightOfEntries entries + 1

/-- The greatest height among items. -/
def heightOfItems : List Node → Nat
  | [] => 0
  | n :: rest => max n.height (heightOfItems rest)

/-- The greatest height among keys and values. -/
def heightOfEntries : List (Node × Node) → Nat
  | [] => 0
  | (k, v) :: rest => max (max k.height v.height) (heightOfEntries rest)

end

end Node

/-- What is left of the tokens, the handles of tags, and the nodes that have an anchor. -/
structure Reader where
  tokens : List Token
  handles : List (String × String)
  anchors : List (String × Node)

/-- Reading nodes off the tokens. -/
abbrev Parse (α : Type) := StateT Reader (Except Flaw) α

namespace Parse

/-- The token ahead. -/
def peek : Parse Token := do return (← get).tokens.headD .textEnd

/-- Goes past the token ahead. -/
def skip : Parse Unit := modify fun s => { s with tokens := s.tokens.tail }

/-- The token ahead makes no sense here, or the text is broken there. -/
def unexpected {α : Type} : Parse α := do
  match ← peek with
  | .broken f => throw f
  | _ => throw .malformed

/-- Goes past the token ahead, which has to be a certain one. -/
def expect (t : Token) : Parse Unit := do
  if (← peek) = t then skip else unexpected

/-- Is the token ahead one of these? -/
def isAt (ts : List Token) : Parse Bool := do return ts.contains (← peek)

/-- Gives a node an anchor. -/
def remember (anchor : Option String) (n : Node) : Parse Unit :=
  match anchor with
  | some name => modify fun s => { s with anchors := (name, n) :: s.anchors }
  | none => pure ()

/-- The anchor ahead, if there is one. -/
def anchor? : Parse (Option String) := do
  match ← peek with
  | .anchor name => skip; return some name
  | _ => return none

/-- The tag ahead, if there is one. -/
def tag? : Parse (Option WrittenTag) := do
  match ← peek with
  | .tag t => skip; return some t
  | _ => return none

/-- The anchor and the tag ahead, in either order. -/
def properties : Parse (Option String × Option WrittenTag) := do
  match ← anchor? with
  | some name => return (some name, ← tag?)
  | none =>
    let t ← tag?
    return (← anchor?, t)

/-- The name of a tag, its handle replaced by what that stands for. -/
def nameOf (t : WrittenTag) : Parse String := do
  match t.handle with
  | none => return t.rest
  | some handle =>
    match (← get).handles.lookup handle with
    | some start => return start ++ t.rest
    | none => throw .malformed

/-- A tag as it is given: none, the one that leaves the choice open, or a certain one. -/
def given (t : Option WrittenTag) : Parse (Option String) := do
  match t with
  | some t => return some (← nameOf t)
  | none => return none

/-- The tag of a node without a certain one. -/
def certainTag (given : Option String) (other : Tag) : Tag :=
  match given with
  | none | some "!" => other
  | some name => Tag.ofName name

/-- The tag of a scalar. -/
def scalarTag (given : Option String) (text : String) (plain : Bool) : Tag :=
  match given with
  | none => if plain then Tag.ofPlain text else .text
  | some "!" => Tag.ofPlain text
  | some name => Tag.ofName name

/-- The node that an alias means. -/
def aliased (name : String) : Parse Node := do
  match (← get).anchors.lookup name with
  | some n => return n
  | none => throw .malformed

mutual

/-- Reads a node.  Blocks are allowed if `inBlock`, and entries without a block of their own if
`bareEntries`. -/
def node (fuel : Nat) (inBlock bareEntries : Bool) : Parse Node := do
  match fuel with
  | 0 => throw .malformed
  | fuel + 1 =>
    match ← peek with
    | .alias name => skip; aliased name
    | _ =>
      let (anchor, written) ← properties
      let given ← given written
      let known := (← get).anchors
      if anchor.any fun name => (known.lookup name).isSome then throw .malformed
      let sequence (items : Parse (List Node)) : Parse Node := do
        let tag := certainTag given .list
        remember anchor (.sequence tag [])
        let n := Node.sequence tag (← items)
        remember anchor n
        return n
      let mapping (entries : Parse (List (Node × Node))) : Parse Node := do
        let tag := certainTag given .map
        remember anchor (.mapping tag [])
        let n := Node.mapping tag (← entries)
        remember anchor n
        return n
      let scalar (n : Node) : Parse Node := do
        remember anchor n
        return n
      match ← peek, inBlock, bareEntries with
      | .dash, _, true => sequence (entries fuel)
      | .scalar text plain, _, _ => skip; scalar (.scalar (scalarTag given text plain) text)
      | .openBracket, _, _ => skip; sequence (flowItems fuel true)
      | .openBrace, _, _ => skip; mapping (flowEntries fuel true)
      | .blockSequence, true, _ => skip; sequence (blockItems fuel)
      | .blockMapping, true, _ => skip; mapping (blockEntries fuel)
      | _, _, _ =>
        if anchor.isSome || given.isSome then scalar (.scalar (scalarTag given "" true) "")
        else unexpected

/-- Reads a node, or an empty one if a token is ahead that cannot start one. -/
def nodeBefore (fuel : Nat) (inBlock bareEntries : Bool) (ends : List Token) : Parse Node := do
  match fuel with
  | 0 => throw .malformed
  | fuel + 1 =>
    if ← isAt ends then return .empty
    else node fuel inBlock bareEntries

/-- Reads the entries of a sequence in a block, with the end of the block. -/
def blockItems (fuel : Nat) : Parse (List Node) := do
  match fuel with
  | 0 => throw .malformed
  | fuel + 1 =>
    if ← isAt [.dash] then
      skip
      let n ← nodeBefore fuel true false [.dash, .blockEnd]
      return n :: (← blockItems fuel)
    else
      expect .blockEnd
      return []

/-- Reads the entries of a sequence that has no block of its own. -/
def entries (fuel : Nat) : Parse (List Node) := do
  match fuel with
  | 0 => throw .malformed
  | fuel + 1 =>
    if ← isAt [.dash] then
      skip
      let n ← nodeBefore fuel true false [.dash, .key, .colon, .blockEnd]
      return n :: (← entries fuel)
    else return []

/-- Reads a value and the colon before it; without a colon the value is empty. -/
def valueBefore (fuel : Nat) (inBlock : Bool) (ends : List Token) : Parse Node := do
  match fuel with
  | 0 => throw .malformed
  | fuel + 1 =>
    if ← isAt [.colon] then
      skip
      nodeBefore fuel inBlock inBlock ends
    else return .empty

/-- Reads the entries of a mapping in a block, with the end of the block. -/
def blockEntries (fuel : Nat) : Parse (List (Node × Node)) := do
  match fuel with
  | 0 => throw .malformed
  | fuel + 1 =>
    if ← isAt [.key] then
      skip
      let key ← nodeBefore fuel true true [.key, .colon, .blockEnd]
      let value ← valueBefore fuel true [.key, .colon, .blockEnd]
      return (key, value) :: (← blockEntries fuel)
    else
      expect .blockEnd
      return []

/-- Reads the items of a sequence between brackets, with the closing one. -/
def flowItems (fuel : Nat) (atStart : Bool) : Parse (List Node) := do
  match fuel with
  | 0 => throw .malformed
  | fuel + 1 =>
    if ← isAt [.closeBracket] then
      skip
      return []
    else
      if !atStart then expect .comma
      if ← isAt [.key] then
        skip
        let key ← nodeBefore fuel false false [.colon, .comma, .closeBracket]
        let value ← valueBefore fuel false [.comma, .closeBracket]
        return .mapping .map [(key, value)] :: (← flowItems fuel false)
      else if ← isAt [.closeBracket] then
        skip
        return []
      else
        let n ← node fuel false false
        return n :: (← flowItems fuel false)

/-- Reads the entries of a mapping between braces, with the closing one. -/
def flowEntries (fuel : Nat) (atStart : Bool) : Parse (List (Node × Node)) := do
  match fuel with
  | 0 => throw .malformed
  | fuel + 1 =>
    if ← isAt [.closeBrace] then
      skip
      return []
    else
      if !atStart then expect .comma
      if ← isAt [.key] then
        skip
        let key ← nodeBefore fuel false false [.colon, .comma, .closeBrace]
        let value ← valueBefore fuel false [.comma, .closeBrace]
        return (key, value) :: (← flowEntries fuel false)
      else if ← isAt [.closeBrace] then
        skip
        return []
      else
        let key ← node fuel false false
        return (key, .empty) :: (← flowEntries fuel false)

end

/-- The handles that need no directive. -/
def usualHandles : List (String × String) := [("!", "!"), ("!!", tagStart)]

/-- Reads the directives of a document; a version and each handle are said once at most. -/
def directives (fuel : Nat) (versioned : Bool) (handles : List (String × String)) :
    Parse Unit := do
  match fuel, ← peek with
  | fuel + 1, .directive d =>
    skip
    match d with
    | .version major =>
      if versioned || major != 1 then throw .malformed
      directives fuel true handles
    | .handle name start =>
      if (handles.lookup name).isSome then throw .malformed
      directives fuel versioned ((name, start) :: handles)
    | .other => directives fuel versioned handles
  | _, _ => modify fun s => { s with handles := handles ++ usualHandles }

/-- Goes past the ends of documents. -/
def documentEnds (fuel : Nat) : Parse Unit := do
  match fuel, ← peek with
  | fuel + 1, .documentEnd => skip; documentEnds fuel
  | _, _ => pure ()

/-- Reads the node of a document whose start is marked, perhaps after directives. -/
def markedDocument (fuel : Nat) : Parse Node := do
  directives fuel false []
  expect .documentStart
  match ← peek with
  | .directive _ | .documentStart | .documentEnd | .textEnd => return .empty
  | _ => node fuel true false

/-- Reads the node of a document whose start is not marked. -/
def bareDocument (fuel : Nat) : Parse Node := do
  modify fun s => { s with handles := usualHandles }
  node fuel true false

/-- Reads all tokens: the node of the only document, or nothing. -/
def document (fuel : Nat) : Parse (Option Node) := do
  match ← peek with
  | .textEnd => return none
  | first =>
    let n ←
      match first with
      | .directive _ | .documentStart => markedDocument fuel
      | _ => bareDocument fuel
    documentEnds fuel
    expect .textEnd
    return some n

end Parse

/-- The node of the only document of a text, if it is not empty. -/
def document? (cs : List Char) : Except Flaw (Option Node) :=
  let ts := tokens cs
  ((Parse.document (8 * ts.length + 8)).run ⟨ts, [], []⟩).map Prod.fst

end Intake.Yaml
