import Intake.Text.Quoted

/-!
# What can be wrong with a pattern

A pattern that cannot be read is refused with a `Problem` and, for most, the place of it,
counted in characters from the start.
-/

namespace Intake.Pattern

/-- What is wrong with a pattern. -/
inductive Problem where
  | danglingBackslash
  | incompleteEscape (escape : String)
  | octalTooLarge (escape : String)
  | badEscape (escape : String)
  | missingBrace
  | undefinedCharacter (name : String)
  | missingName (what : String)
  | unterminatedName (terminator : String)
  | badNameCharacter (name : String)
  | unknownGroup (name : String)
  | redefinedGroup (name : String) (now before : Nat)
  | openGroup
  | groupInLookBehind
  | invalidGroup (n : Nat)
  | badGroupNumber
  | unterminatedSet
  | badRange (low high : String)
  | leastAboveMost
  | nothingToRepeat
  | multipleRepeat
  | unexpectedEnd
  | unknownExtension (extension : String)
  | unterminatedComment
  | unterminatedGroup
  | tooManyBranches
  | lateOptions
  | localeOption
  | clashingOptions
  | missingOptionEnd
  | unknownOption
  | missingOption
  | cannotTurnOffCharacters
  | missingColon
  | globalOptionOn
  | globalOptionOff
  | optionOnAndOff
  | unbalancedParenthesis
  | lookBehindVaries
  | lookBehindTooLong
  | templateRepeat (sort : String)
deriving DecidableEq, Repr

/-- The wording of a problem. -/
def Problem.message : Problem → String
  | .danglingBackslash => "bad escape (end of pattern)"
  | .incompleteEscape escape => "incomplete escape " ++ escape
  | .octalTooLarge escape => "octal escape value " ++ escape ++ " outside of range 0-0o377"
  | .badEscape escape => "bad escape " ++ escape
  | .missingBrace => "missing \x7b"
  | .undefinedCharacter name => "undefined character name " ++ Text.quoted name
  | .missingName what => "missing " ++ what
  | .unterminatedName terminator => "missing " ++ terminator ++ ", unterminated name"
  | .badNameCharacter name => "bad character in group name " ++ Text.quoted name
  | .unknownGroup name => "unknown group name " ++ Text.quoted name
  | .redefinedGroup name now before =>
    "redefinition of group name " ++ Text.quoted name ++ " as group " ++ toString now ++
      "; was group " ++ toString before
  | .openGroup => "cannot refer to an open group"
  | .groupInLookBehind => "cannot refer to group defined in the same lookbehind subpattern"
  | .invalidGroup n => "invalid group reference " ++ toString n
  | .badGroupNumber => "bad group number"
  | .unterminatedSet => "unterminated character set"
  | .badRange low high => "bad character range " ++ low ++ "-" ++ high
  | .leastAboveMost => "min repeat greater than max repeat"
  | .nothingToRepeat => "nothing to repeat"
  | .multipleRepeat => "multiple repeat"
  | .unexpectedEnd => "unexpected end of pattern"
  | .unknownExtension extension => "unknown extension ?" ++ extension
  | .unterminatedComment => "missing ), unterminated comment"
  | .unterminatedGroup => "missing ), unterminated subpattern"
  | .tooManyBranches => "conditional backref with more than two branches"
  | .lateOptions => "global flags not at the start of the expression"
  | .localeOption => "bad inline flags: cannot use 'L' flag with a str pattern"
  | .clashingOptions => "bad inline flags: flags 'a', 'u' and 'L' are incompatible"
  | .missingOptionEnd => "missing -, : or )"
  | .unknownOption => "unknown flag"
  | .missingOption => "missing flag"
  | .cannotTurnOffCharacters => "bad inline flags: cannot turn off flags 'a', 'u' and 'L'"
  | .missingColon => "missing :"
  | .globalOptionOn => "bad inline flags: cannot turn on global flag"
  | .globalOptionOff => "bad inline flags: cannot turn off global flag"
  | .optionOnAndOff => "bad inline flags: flag turned on and off"
  | .unbalancedParenthesis => "unbalanced parenthesis"
  | .lookBehindVaries => "look-behind requires fixed-width pattern"
  | .lookBehindTooLong => "looks too much behind"
  | .templateRepeat sort => "internal: unsupported template operator " ++ sort

/-- Why a pattern is refused. -/
inductive PatternError where
  | problem (what : Problem) (place : Option Nat)
  | charactersClash
  | repetitionTooLarge
deriving DecidableEq, Repr

/-- A place, with line and column if the pattern has several lines. -/
def placeText (pattern : List Char) (place : Nat) : String :=
  let before := pattern.take place
  let inLine := (before.reverse.takeWhile (· ≠ '\n')).length
  " at position " ++ toString place ++
    (if pattern.contains '\n' then
      " (line " ++ toString (before.count '\n' + 1) ++ ", column " ++ toString (inLine + 1) ++ ")"
     else "")

/-- The wording of a refusal of `pattern`. -/
def PatternError.message (pattern : String) : PatternError → String
  | .problem what none => what.message
  | .problem what (some place) => what.message ++ placeText pattern.toList place
  | .charactersClash => "ASCII and UNICODE flags are incompatible"
  | .repetitionTooLarge => "the repetition number is too large"

end Intake.Pattern
