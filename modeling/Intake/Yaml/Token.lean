import Intake.Yaml.Chars

/-!
# Tokens of YAML

The pieces that a YAML text consists of.  Where indentation has a meaning there are tokens for
it, and a value that turns out to have a key in front of it gets a token before that key.

The last token of a text says that it ends, or what is wrong with the rest of it.
-/

namespace Intake.Yaml

/-- A directive: the version of the language, a handle for tags, or one without meaning. -/
inductive Directive where
  | version (major : Nat)
  | handle (name start : String)
  | other
deriving DecidableEq, Repr

/-- The tag of a node as it is written: a handle, if there is one, and a rest. -/
structure WrittenTag where
  handle : Option String
  rest : String
deriving DecidableEq, Repr

/-- A token. -/
inductive Token where
  | directive (d : Directive)
  | documentStart
  | documentEnd
  | blockSequence
  | blockMapping
  | blockEnd
  | openBracket
  | closeBracket
  | openBrace
  | closeBrace
  | comma
  | dash
  | key
  | colon
  | alias (name : String)
  | anchor (name : String)
  | tag (t : WrittenTag)
  | scalar (text : String) (plain : Bool)
  | textEnd
  | broken (f : Flaw)
deriving DecidableEq, Repr

end Intake.Yaml
