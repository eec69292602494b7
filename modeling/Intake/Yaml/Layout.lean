import Intake.Yaml.Block
import Intake.Yaml.Quoted
import Intake.Yaml.Property

/-!
# Layout of YAML

How a text becomes tokens, with tokens for what its layout says.

Outside of brackets the column of a line says how deep it is: a greater column opens a block, a
smaller one closes blocks.  A key need not be marked: whatever stands in front of a colon may
turn out to be one, provided it is on one line and not longer than 1024 characters.  So the
places where a key may start are kept, one for each depth of brackets; once the colon comes, the
token for the key is put there.  Where a block can only go on with a key, the key is required.

`tokens` gives the tokens of a text.
-/

namespace Intake.Yaml

/-- A spot in a text: what follows, how many characters precede it, its line and column. -/
structure Spot where
  rest : List Char
  index : Nat
  line : Nat
  column : Nat

/-- The spot one character on. -/
def Spot.next (s : Spot) : Spot :=
  match s.rest with
  | [] => s
  | c :: rest =>
    if isBreak c then ⟨rest, s.index + 1, s.line + 1, 0⟩
    else if c.toNat = 0xFEFF then ⟨rest, s.index + 1, s.line, s.column⟩
    else ⟨rest, s.index + 1, s.line, s.column + 1⟩

/-- The spot some characters on. -/
def Spot.forward : Nat → Spot → Spot
  | 0, s => s
  | n + 1, s => forward n s.next

/-- The spot from which only `rest` follows. -/
def Spot.upTo (rest : List Char) (s : Spot) : Spot :=
  s.forward (s.rest.length - rest.length)

/-- A place where a key may start: how many tokens precede it, whether it has to be a key, and
where it is. -/
structure PossibleKey where
  before : Nat
  required : Bool
  spot : Spot

/-- The longest key that is not marked as one. -/
def keyLimit : Nat := 1024

/-- A text on its way to tokens: the tokens so far, the depth of brackets, the column of the
innermost block and of those around it, whether a key may start here, and where keys may have
started. -/
structure Layout where
  spot : Spot
  tokens : Array Token
  depth : Nat
  indent : Int
  outer : List Int
  keyAllowed : Bool
  keys : List (Nat × PossibleKey)

namespace Layout

/-- The layout at the start of a text. -/
def start (cs : List Char) : Layout := ⟨⟨cs, 0, 0, 0⟩, #[], 0, -1, [], true, []⟩

/-- The layout with one more token. -/
def emit (t : Token) (s : Layout) : Layout := { s with tokens := s.tokens.push t }

/-- The layout that has got as far as `rest`. -/
def upTo (rest : List Char) (s : Layout) : Layout := { s with spot := s.spot.upTo rest }

/-- The layout some characters further on. -/
def forward (n : Nat) (s : Layout) : Layout := { s with spot := s.spot.forward n }

/-- The column as a number that can be compared to an indent. -/
def column (s : Layout) : Int := s.spot.column

/-- The layout without the key that may have started at this depth; it must not be required. -/
def dropKey (s : Layout) : Except Flaw Layout :=
  match s.keys.lookup s.depth with
  | some key =>
    if key.required then .error .malformed
    else .ok { s with keys := s.keys.filter fun e => e.1 != s.depth }
  | none => .ok s

/-- Is a key that may have started at `key` out of reach? -/
def isStale (s : Layout) (key : PossibleKey) : Bool :=
  key.spot.line != s.spot.line || keyLimit < s.spot.index - key.spot.index

/-- The layout without keys that are out of reach; they must not be required. -/
def dropStale (s : Layout) : Except Flaw Layout :=
  if s.keys.any fun e => s.isStale e.2 && e.2.required then .error .malformed
  else .ok { s with keys := s.keys.filter fun e => !s.isStale e.2 }

/-- The layout with a key that may start here, if one may. -/
def saveKey (s : Layout) : Except Flaw Layout := do
  if !s.keyAllowed then return s
  else
    let key : PossibleKey := ⟨s.tokens.size, s.depth == 0 && s.indent == s.column, s.spot⟩
    let s ← s.dropKey
    return { s with keys := (s.depth, key) :: s.keys }

/-- Closes the blocks that are deeper than a column. -/
def closeBlocks (column indent : Int) (tokens : Array Token) :
    List Int → Int × List Int × Array Token
  | [] => (indent, [], tokens)
  | around :: outer =>
    if column < indent then closeBlocks column around (tokens.push .blockEnd) outer
    else (indent, around :: outer, tokens)

/-- The layout at a column, which ends blocks except between brackets. -/
def unwind (column : Int) (s : Layout) : Layout :=
  if s.depth ≠ 0 then s
  else
    let (indent, outer, tokens) := closeBlocks column s.indent s.tokens s.outer
    { s with indent, outer, tokens }

/-- Opens a block at a column, if it is deeper; `opening` goes in front of the token at a
place. -/
def openBlock (column : Int) (place : Nat) (opening : Token) (s : Layout) : Layout :=
  if s.indent < column then
    { s with
      indent := column
      outer := s.indent :: s.outer
      tokens := s.tokens.insertIdxIfInBounds place opening }
  else s

/-- Opens a block here, unless between brackets; without a mark a block may not open in the
middle of a line. -/
def openHere (opening : Token) (s : Layout) : Except Flaw Layout :=
  if s.depth ≠ 0 then .ok s
  else if !s.keyAllowed then .error .malformed
  else .ok (s.openBlock s.column s.tokens.size opening)

/-- What follows blanks, comments and breaks, and whether there was a break. -/
def skipBlank (inComment brokeLine : Bool) : List Char → Bool × List Char
  | [] => (brokeLine, [])
  | c :: rest =>
    if isBreak c then skipBlank false true rest
    else if inComment || c = ' ' then skipBlank inComment brokeLine rest
    else if c = '#' then skipBlank true brokeLine rest
    else (brokeLine, c :: rest)

/-- The text after the mark of its encoding, if it starts with one. -/
def afterMark (s : Layout) : List Char :=
  match s.spot.index, s.spot.rest with
  | 0, c :: rest => if c.toNat = 0xFEFF then rest else c :: rest
  | _, rest => rest

/-- Goes on to the next token. -/
def toToken (s : Layout) : Except Flaw Layout := do
  let (brokeLine, rest) := skipBlank false false s.afterMark
  let s := s.upTo rest
  let s := if brokeLine && s.depth == 0 then { s with keyAllowed := true } else s
  let s ← s.dropStale
  return s.unwind s.column

/-- Ends all blocks, before a document or a directive, or at the end of the text. -/
def endBlocks (s : Layout) : Except Flaw Layout := do
  let s ← (s.unwind (-1)).dropKey
  return { s with keyAllowed := false }

/-- A line that starts or ends a document. -/
def marker (t : Token) (s : Layout) : Except Flaw Layout := do
  return (← s.endBlocks).emit t |>.forward 3

/-- An opening bracket. -/
def openBracket (t : Token) (s : Layout) : Except Flaw Layout := do
  let s ← s.saveKey
  return { s with depth := s.depth + 1, keyAllowed := true }.emit t |>.forward 1

/-- A closing bracket. -/
def closeBracket (t : Token) (s : Layout) : Except Flaw Layout := do
  let s ← s.dropKey
  return { s with depth := s.depth - 1, keyAllowed := false }.emit t |>.forward 1

/-- A comma between brackets. -/
def comma (s : Layout) : Except Flaw Layout := do
  let s ← { s with keyAllowed := true }.dropKey
  return s.emit .comma |>.forward 1

/-- The dash of an entry. -/
def dash (s : Layout) : Except Flaw Layout := do
  let s ← s.openHere .blockSequence
  let s ← { s with keyAllowed := true }.dropKey
  return s.emit .dash |>.forward 1

/-- The mark of a key. -/
def keyMark (s : Layout) : Except Flaw Layout := do
  let s ← s.openHere .blockMapping
  let s ← { s with keyAllowed := s.depth == 0 }.dropKey
  return s.emit .key |>.forward 1

/-- A colon, which makes a key of what may have been one. -/
def colon (s : Layout) : Except Flaw Layout := do
  let s ←
    match s.keys.lookup s.depth with
    | some key =>
      let s := { s with
        keys := s.keys.filter fun e => e.1 != s.depth
        tokens := s.tokens.insertIdxIfInBounds key.before .key
        keyAllowed := false }
      pure (if s.depth = 0 then s.openBlock key.spot.column key.before .blockMapping else s)
    | none =>
      let s ← s.openHere .blockMapping
      { s with keyAllowed := s.depth == 0 }.dropKey
  return s.emit .colon |>.forward 1

/-- A token that may start a key: an alias, an anchor, a tag or a scalar. -/
def content (t : Token) (rest : List Char) (s : Layout) : Except Flaw Layout := do
  let s ← s.saveKey
  return { s with keyAllowed := false }.emit t |>.upTo rest

/-- A quoted scalar. -/
def quoted (quote : Char) (cs : List Char) (s : Layout) : Except Flaw Layout := do
  let (text, rest) ← quotedScalar quote cs
  s.content (.scalar (String.ofList text) false) rest

/-- A block scalar. -/
def block (folding : Bool) (cs : List Char) (s : Layout) : Except Flaw Layout := do
  let s ← { s with keyAllowed := true }.dropKey
  let (text, rest) ← blockScalar folding s.indent cs
  return s.emit (.scalar (String.ofList text) false) |>.upTo rest

/-- A plain scalar; after a line break a key may follow it. -/
def plain (s : Layout) : Except Flaw Layout := do
  let found := plainScalar (s.depth != 0) (s.indent + 1) s.spot.rest
  let s ← s.content (.scalar (String.ofList found.text) true) found.rest
  return { s with keyAllowed := found.brokeLine }

/-- Characters that no plain scalar starts with. -/
def indicators : List Char :=
  "-?:,[]\x7b\x7d#&*!|>\x27\"%@\x60".toList

/-- Can a plain scalar start with `c`, before `rest`? -/
def startsPlain (inFlow : Bool) (c : Char) (rest : List Char) : Bool :=
  !(isSpace c || isBreak c || indicators.contains c) ||
    (!endsToken rest && (c == '-' || (!inFlow && (c == '?' || c == ':'))))

/-- Reads the token that starts with `c`. -/
def token (c : Char) (rest : List Char) (s : Layout) : Except Flaw Layout := do
  let inFlow := s.depth != 0
  let atColumn0 := s.spot.column == 0
  if c = '%' && atColumn0 then
    let s ← s.endBlocks
    let (d, rest) ← directive rest
    return s.emit (.directive d) |>.upTo rest
  else if atColumn0 && atMarker (c :: rest) then
    s.marker (if c = '-' then .documentStart else .documentEnd)
  else if c = '-' && endsToken rest then s.dash
  else if c = '?' && (inFlow || endsToken rest) then s.keyMark
  else if c = ':' && (inFlow || endsToken rest) then s.colon
  else
    match c with
    | '[' => s.openBracket .openBracket
    | ']' => s.closeBracket .closeBracket
    | '\x7b' => s.openBracket .openBrace
    | '\x7d' => s.closeBracket .closeBrace
    | ',' => s.comma
    | '*' =>
      let (name, rest) ← nodeName rest
      s.content (.alias name) rest
    | '&' =>
      let (name, rest) ← nodeName rest
      s.content (.anchor name) rest
    | '!' =>
      let (tag, rest) ← writtenTag (c :: rest)
      s.content (.tag tag) rest
    | '\x27' => s.quoted c rest
    | '"' => s.quoted c rest
    | _ =>
      if (c = '|' || c = '>') && !inFlow then s.block (c = '>') rest
      else if startsPlain inFlow c rest then s.plain
      else throw .malformed

/-- Reads on to the end of the text. -/
def run (fuel : Nat) (s : Layout) : List Token :=
  let broken (f : Flaw) : List Token := (s.tokens.push (.broken f)).toList
  match fuel with
  | 0 => broken .malformed
  | fuel + 1 =>
    match s.toToken with
    | .error f => broken f
    | .ok s =>
      match s.spot.rest with
      | [] =>
        match s.endBlocks with
        | .error f => broken f
        | .ok s => (s.tokens.push .textEnd).toList
      | c :: rest =>
        match s.token c rest with
        | .error f => broken f
        | .ok s => run fuel s

end Layout

/-- The tokens of a text. -/
def tokens (cs : List Char) : List Token :=
  (Layout.start cs).run (cs.length + 2)

end Intake.Yaml
