import Intake.Pattern.Reader
import Intake.Text.Case
import Intake.Text.Digit

/-!
# Matching

A pattern is matched by trying its parts in order, each part being told what has to match
after it.  A part gives the first way to go on that works, so the order in which repetitions
and branches try their ways is the order of preference.

* `Node.run` matches a node at a place of a text;
* `TextPattern` is a pattern together with the text that writes it;
* `TextPattern.occursIn` says whether the pattern matches anywhere in a text.
-/

namespace Intake

namespace Pattern

/-- Is `c` a letter, a digit or a low line? -/
def isWordChar (ascii : Bool) (c : Char) : Bool :=
  if ascii then c.isAlphanum || c = '_' else Text.isWordLetter c || c = '_'

/-- Is `c` in a class? -/
def Category.holds (ascii : Bool) (c : Char) : Category → Bool
  | .digit => isDigit c
  | .notDigit => !isDigit c
  | .blank => isBlank c
  | .notBlank => !isBlank c
  | .word => isWordChar ascii c
  | .notWord => !isWordChar ascii c
where
  isDigit (c : Char) : Bool := if ascii then c.isDigit else Text.isDecimal c
  isBlank (c : Char) : Bool :=
    if ascii then (9 ≤ c.toNat && c.toNat ≤ 13) || c = ' ' else Text.isBlank c

/-- The small form under which characters are compared. -/
def folded (ascii : Bool) (c : Char) : Char :=
  if ascii then c.toLower else Text.simpleLower c

/-- The other small letters with the same capital. -/
def kin (ascii : Bool) (n : Nat) : List Nat :=
  if ascii then [] else Text.kinOf n

/-- The characters whose small form is `n`. -/
def foldedFrom (ascii : Bool) (n : Nat) : List Nat :=
  if ascii then
    let c := Char.ofNat n
    if c.isUpper then [] else if c.isLower then [n, c.toUpper.toNat] else [n]
  else Text.lowerSources n

/-- Characters above this compare by themselves inside sets. -/
def lastOfPlane : Nat := 0xFFFF

/-- Is a character, ignoring case, a member of a set?  `l` is its small form. -/
def SetItem.holdsFolded (ascii : Bool) (l : Char) : SetItem → Bool
  | .char n =>
    if lastOfPlane < n then l.toNat == n
    else
      let m := (folded ascii (Char.ofNat n)).toNat
      l.toNat == m || (kin ascii m).contains l.toNat
  | .range low high =>
    let among (n : Nat) : Bool := low ≤ n && n ≤ high && n ≤ lastOfPlane
    (foldedFrom ascii l.toNat).any among ||
      (kin ascii l.toNat).any (fun k => (foldedFrom ascii k).any among) ||
      (lastOfPlane < high &&
        ((low ≤ l.toNat && l.toNat ≤ high) ||
          (let u := (Text.simpleUpper l).toNat; low ≤ u && u ≤ high)))
  | .category which => which.holds ascii l

/-- Is a character a member of a set? -/
def SetItem.holds (mode : Mode) (c : Char) : SetItem → Bool
  | .char n => c.toNat == n
  | .range low high => low ≤ c.toNat && c.toNat ≤ high
  | .category which => which.holds mode.ascii c

/-- Is `c` one of some characters? -/
def isOneOf (mode : Mode) (items : List SetItem) (c : Char) : Bool :=
  if mode.ignoreCase then items.any (SetItem.holdsFolded mode.ascii (folded mode.ascii c))
  else items.any (SetItem.holds mode c)

/-- Does a character have another case? -/
def hasCase (ascii : Bool) (c : Char) : Bool :=
  if ascii then c.isAlpha else Text.simpleLower c != c || Text.simpleUpper c != c

/-- Is `c` the character with number `n`? -/
def isChar (mode : Mode) (n : Nat) (c : Char) : Bool :=
  if mode.ignoreCase && hasCase mode.ascii (Char.ofNat n) then
    let m := (folded mode.ascii (Char.ofNat n)).toNat
    let l := (folded mode.ascii c).toNat
    l == m || (kin mode.ascii m).contains l
  else c.toNat == n

/-- A place in a text, and where each group that took something starts and ends. -/
structure State where
  place : Nat
  groups : List (Nat × Nat × Nat)

/-- Where a group starts and ends. -/
def State.group? (st : State) (index : Nat) : Option (Nat × Nat) :=
  st.groups.lookup index

/-- What has to match after a part. -/
abbrev Rest := State → Option State

/-- Is the place at one side of a word only? -/
def isWordEdge (ascii : Bool) (text : Array Char) (place : Nat) : Bool :=
  let isWordAt (i : Nat) : Bool := (text[i]?).any (isWordChar ascii)
  (decide (0 < place) && isWordAt (place - 1)) != isWordAt place

/-- Is the place as a pattern says? -/
def Place.holds (text : Array Char) (place : Nat) : Place → Bool
  | .start => place == 0
  | .lineStart => place == 0 || text[place - 1]? == some '\n'
  | .finish => place == text.size || (place + 1 == text.size && text[place]? == some '\n')
  | .lineFinish => place == text.size || text[place]? == some '\n'
  | .textFinish => place == text.size
  | .wordEdge ascii => !text.isEmpty && isWordEdge ascii text place
  | .notWordEdge ascii => !text.isEmpty && !isWordEdge ascii text place

/-- Takes one character of a class. -/
def takeOne (text : Array Char) (p : Char → Bool) (st : State) (k : Rest) : Option State :=
  match text[st.place]? with
  | some c => if p c then k { st with place := st.place + 1 } else none
  | none => none

/-- The first of two ways that works. -/
def orElse (first : Option State) (second : Unit → Option State) : Option State :=
  match first with
  | some st => some st
  | none => second ()

/-- Repeats a part.  `count` repetitions are done; once `least` are, another one may start only
at a place where the last one did not start.  A repetition that gives nothing back settles
each round before the next. -/
def repeatPart (part : State → Rest → Option State) (greed : Greed) (least : Nat)
    (most : Option Nat) (k : Rest) (fuel count : Nat) (last : Option Nat) (st : State) :
    Option State :=
  match fuel with
  | 0 => none
  | fuel + 1 =>
    let onward := repeatPart part greed least most k fuel (count + 1)
    if count < least then
      match greed with
      | .possessive => (part st some).bind (onward last)
      | _ => part st (onward last)
    else if most.any (· ≤ count) || last == some st.place then k st
    else
      match greed with
      | .greedy => orElse (part st (onward (some st.place))) fun _ => k st
      | .lazy => orElse (k st) fun _ => part st (onward (some st.place))
      | .possessive =>
        match part st some with
        | some st' => onward (some st.place) st'
        | none => k st

/-- Do the characters from two places on agree, `count` of them? -/
def agrees (mode : Mode) (text : Array Char) (count i j : Nat) : Bool :=
  match count with
  | 0 => true
  | count + 1 =>
    match text[i]?, text[j]? with
    | some a, some b =>
      (if mode.ignoreCase then folded mode.ascii a == folded mode.ascii b else a == b) &&
        agrees mode text count (i + 1) (j + 1)
    | _, _ => false

mutual

/-- Matches a node at a place, and what has to match after it. -/
def Node.run (text : Array Char) : Node → State → Rest → Option State
  | .char mode negated n, st, k => takeOne text (fun c => isChar mode n c != negated) st k
  | .any withLineFeed, st, k => takeOne text (fun c => withLineFeed || c != '\n') st k
  | .oneOf mode negated items, st, k =>
    takeOne text (fun c => isOneOf mode items c != negated) st k
  | .at place, st, k => if place.holds text st.place then k st else none
  | .sequence parts, st, k => runAll text parts st k
  | .choice branches, st, k => runAny text branches st k
  | .repeated greed least most body, st, k =>
    repeatPart (fun st k => Node.run text body st k) greed least most k
      (least + (text.size - st.place) + 2) 0 none st
  | .group index body, st, k =>
    Node.run text body st fun st' =>
      k { st' with groups := (index, st.place, st'.place) :: st'.groups }
  | .atomic body, st, k => (Node.run text body st some).bind k
  | .same mode index _ _, st, k =>
    match st.group? index with
    | none => none
    | some (first, finish) =>
      let count := finish - first
      if agrees mode text count st.place first then k { st with place := st.place + count }
      else none
  | .look behind negated body, st, k =>
    let back := behind.getD 0
    let found :=
      if st.place < back then none
      else Node.run text body { st with place := st.place - back } some
    match found with
    | some st' => if negated then none else k { st' with place := st.place }
    | none => if negated then k st else none
  | .ifGroup index yes no, st, k =>
    if (st.group? index).isSome then Node.run text yes st k else Node.run text no st k

/-- Matches nodes one after another. -/
def runAll (text : Array Char) : List Node → State → Rest → Option State
  | [], st, k => k st
  | n :: rest, st, k => Node.run text n st fun st' => runAll text rest st' k

/-- Matches the first of some nodes that works. -/
def runAny (text : Array Char) : List Node → State → Rest → Option State
  | [], _, _ => none
  | n :: rest, st, k => orElse (Node.run text n st k) fun _ => runAny text rest st k

end

/-- Does the node match at some place from `place` on, `count` places later at most? -/
def searchFrom (node : Node) (text : Array Char) (count place : Nat) : Bool :=
  (node.run text ⟨place, []⟩ some).isSome ||
    match count with
    | 0 => false
    | count + 1 => searchFrom node text count (place + 1)

end Pattern

/-- A pattern, with the text that writes it. -/
structure TextPattern where
  source : String
  node : Pattern.Node
  reads : Pattern.read source = .ok node

namespace TextPattern

/-- The pattern that a text writes. -/
def read (source : String) : Except Pattern.PatternError TextPattern :=
  match h : Pattern.read source with
  | .ok node => .ok ⟨source, node, h⟩
  | .error e => .error e

/-- Does the pattern match somewhere in a text? -/
def occursIn (p : TextPattern) (text : String) : Bool :=
  let chars := text.toList.toArray
  Pattern.searchFrom p.node chars chars.size 0

end TextPattern

end Intake
