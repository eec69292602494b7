import Intake.Value.Basic

/-!
# Faults

A value of an unfit sort can make an operation impossible.  Such an accident is a `Fault`:
its constructor says what happened, `Fault.wording?` words it.  Most are caught where they
happen (a broken predicate hides its field, a broken rule fails), some end the request.

A fault of the host may fail to say what happened, by a fault of its own.  What catches a fault
notes its wording first, so a fault without wording is not caught after all: the one that came up
in wording it takes its place (`Fault.passOver`).
-/

namespace Intake

mutual

/-- An accident while working on a value. -/
inductive Fault where
  | notIterable (kind : Kind)
  | unhashable (kind : Kind)
  | noMember (kind : Kind) (member : String)
  | tooManyDigits
  | numeralTooLong (digits : Nat)
  | notInteger (shown base : String)
  | notFloat (shown : String)
  | notBoolean (word : String)
  | noGroups
  | notADay (problem : String)
  | repetitionTooLarge
  | numberTooLarge
  | emptyNumeral
  | notUtf8 (problem : String)
  | badCall (problem : String)
  | unknownName (problem : String)
  | badValue (problem : String)
  | hostRaised (kind : String) (wording : HostWording)
deriving DecidableEq, Repr

/-- How a fault of the host words itself, or the fault that comes up when it is asked to. -/
inductive HostWording where
  | said (text : String)
  | fails (f : Fault)
deriving DecidableEq, Repr

end

instance : Coe String HostWording := ⟨.said⟩

/-- What cannot be turned into text, having too many digits. -/
def digitLimitText : String :=
  "Exceeds the limit (4300 digits) for integer string conversion"

/-- The wording of a fault; nothing if it has none. -/
def Fault.message : Fault → String
  | .notIterable kind => "'" ++ kind.name ++ "' object is not iterable"
  | .unhashable kind => "unhashable type: '" ++ kind.name ++ "'"
  | .noMember kind member => "'" ++ kind.name ++ "' object has no attribute '" ++ member ++ "'"
  | .tooManyDigits =>
    digitLimitText ++ "; use sys.set_int_max_str_digits() to increase the limit"
  | .numeralTooLong digits =>
    digitLimitText ++ ": value has " ++ toString digits ++
      " digits; use sys.set_int_max_str_digits() to increase the limit"
  | .notInteger shown base => "invalid literal for int() with base " ++ base ++ ": " ++ shown
  | .notFloat shown => "could not convert string to float: " ++ shown
  | .notBoolean word => word
  | .noGroups => "'NoneType' object has no attribute 'groupdict'"
  | .notADay problem => problem
  | .repetitionTooLarge => "the repetition number is too large"
  | .numberTooLarge => "Python int too large to convert to C int"
  | .emptyNumeral => "string index out of range"
  | .notUtf8 problem => problem
  | .badCall problem => problem
  | .unknownName problem => problem
  | .badValue problem => problem
  | .hostRaised _ (.said text) => text
  | .hostRaised _ (.fails _) => ""

/-- The wording of a fault, if it can be had. -/
def Fault.wording? : Fault → Except Fault String
  | .hostRaised _ (.fails f) => .error f
  | f => .ok f.message

/-- What comes of a fault that is noted and passed over in favour of something else. -/
def Fault.passOver {α : Type} (f : Fault) (instead : α) : Except Fault α :=
  f.wording?.map fun _ => instead

end Intake
