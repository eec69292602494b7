import Intake.Answers
import Intake.Fault

/-!
# Functions of the host

A program that embeds the engine may supply functions of its own, which forms name: decisions
over a value and all answers, and cleaners of a value.  They may fail, and be awkward otherwise:

* what a decision gives may be neither yes nor no, which is found out where it is asked which;
* a cleaner may have changed the list that it was handed before it fails.
-/

namespace Intake

/-- The functions that the host supplies, by name. -/
structure Host where
  decide : String → Value → Answers → Except Fault Bool
  clean : String → Value → Except Fault Value
  /-- The fault in asking what `decide` gave whether it is yes or no, if there is one. -/
  vague : String → Value → Answers → Option Fault := fun _ _ _ => .none
  /-- What `clean` leaves of a value that it may change if it fails. -/
  left : String → Value → Value := fun _ v => v

/-- The host that supplies nothing. -/
def Host.none : Host where
  decide name _ _ := .error (.unknownName name)
  clean name _ := .error (.unknownName name)

end Intake
