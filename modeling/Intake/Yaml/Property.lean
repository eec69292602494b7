import Intake.Text.Utf8
import Intake.Yaml.Token

/-!
# Names, tags and directives

What stands before a node or a document: the name of an anchor or alias, the tag of a node, and
the directives of a document.

A tag is written out between angle brackets, or as a handle and a rest; `!` alone is a tag too.
In a tag, octets can be written with a percent sign; together they have to be UTF-8.
-/

namespace Intake.Yaml

/-- Reads the name of an anchor or alias; its mark has been read. -/
def nodeName (cs : List Char) : Except Flaw (String × List Char) :=
  let (name, rest) := cs.span isNameChar
  let ends := endsToken rest ||
    startsWithOneOf ['?', ':', ',', ']', '\x7d', '%', '@', '\x60'] rest
  if name.isEmpty || !ends then .error .malformed else .ok (String.ofList name, rest)

/-- Reads the octets that are written with percent signs ahead. -/
def percentOctets (fuel : Nat) (octets : List Nat) (cs : List Char) :
    Except Flaw (List Nat × List Char) :=
  match fuel, cs with
  | fuel + 1, '%' :: rest =>
    match hexNumber? 2 0 rest with
    | some (n, after) => percentOctets fuel (octets ++ [n]) after
    | none => .error .malformed
  | _, _ => .ok (octets, cs)

/-- Reads the characters of a tag after the text `done`. -/
def tagFrom (fuel : Nat) (done cs : List Char) : Except Flaw (List Char × List Char) :=
  match fuel, cs with
  | 0, _ => .ok (done, cs)
  | _, [] => .ok (done, [])
  | fuel + 1, c :: rest =>
    if c = '%' then
      match percentOctets (fuel + 1) [] cs with
      | .error f => .error f
      | .ok (octets, after) =>
        match Text.Utf8.ofOctets octets with
        | .ok text => tagFrom fuel (done ++ text.toList) after
        | .error _ => .error .malformed
    else if isTagChar c then tagFrom fuel (done ++ [c]) rest
    else .ok (done, c :: rest)

/-- Reads the characters of a tag; there has to be one. -/
def tagText (cs : List Char) : Except Flaw (String × List Char) := do
  let (text, rest) ← tagFrom (cs.length + 1) [] cs
  if text.isEmpty then .error .malformed else .ok (String.ofList text, rest)

/-- Reads a handle: an exclamation mark, or a word between two. -/
def tagHandle : List Char → Except Flaw (String × List Char)
  | '!' :: ' ' :: rest => .ok ("!", ' ' :: rest)
  | '!' :: rest =>
    let (word, after) := rest.span isNameChar
    match after with
    | '!' :: after => .ok (String.ofList ('!' :: word ++ ['!']), after)
    | _ => .error .malformed
  | _ => .error .malformed

/-- Reads a tag whose exclamation mark is ahead. -/
def writtenTag (cs : List Char) : Except Flaw (WrittenTag × List Char) := do
  let (tag, rest) ←
    match cs.drop 1 with
    | '<' :: rest =>
      match ← tagText rest with
      | (text, '>' :: rest) => pure (⟨none, text⟩, rest)
      | _ => throw .malformed
    | rest =>
      if endsToken rest then pure (⟨none, "!"⟩, rest)
      else if (rest.takeWhile fun c => c != ' ' && !isBreak c).contains '!' then do
        let (handle, rest) ← tagHandle cs
        let (text, rest) ← tagText rest
        pure (⟨some handle, text⟩, rest)
      else do
        let (text, rest) ← tagText rest
        pure (⟨some "!", text⟩, rest)
  if endsWord rest then .ok (tag, rest) else .error .malformed

/-- Reads a row of digits. -/
def digits (cs : List Char) : Except Flaw (List Char × List Char) :=
  let (ds, rest) := cs.span Char.isDigit
  if ds.isEmpty then .error .malformed else .ok (ds, rest)

/-- Reads the number of a version. -/
def versionDirective (cs : List Char) : Except Flaw (Directive × List Char) := do
  let (major, rest) ← digits (cs.dropWhile (· == ' '))
  match rest with
  | '.' :: rest =>
    let (_, rest) ← digits rest
    let value := major.foldl (fun n c => n * 10 + (c.toNat - '0'.toNat)) 0
    if endsWord rest then .ok (.version value, rest) else .error .malformed
  | _ => .error .malformed

/-- Reads a handle and what it stands for. -/
def handleDirective (cs : List Char) : Except Flaw (Directive × List Char) := do
  let (name, rest) ← tagHandle (cs.dropWhile (· == ' '))
  if !startsWithOneOf [' '] rest then .error .malformed
  else
    let (start, rest) ← tagText (rest.dropWhile (· == ' '))
    if endsWord rest then .ok (.handle name start, rest) else .error .malformed

/-- Reads a directive whose percent sign has been read, with its line. -/
def directive (cs : List Char) : Except Flaw (Directive × List Char) := do
  let (name, rest) := cs.span isNameChar
  if name.isEmpty || !endsWord rest then .error .malformed
  else
    let (d, rest) ←
      match String.ofList name with
      | "YAML" => versionDirective rest
      | "TAG" => handleDirective rest
      | _ => pure (.other, (line rest).2)
    return (d, ← afterComment? rest)

end Intake.Yaml
