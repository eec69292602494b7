import Intake.Text.Utf8
import Intake.Yaml.Document

/-!
# YAML files

What the octets of a file stand for: a text in UTF-8, with line ends of any kind, and the value
that it writes.
-/

namespace Intake.Yaml

/-- Octets that a character starts with and the end of a file cuts short are looked at by
themselves, so their places count from there. -/
def countedAlone (e : Text.Utf8.DecodeError) : Text.Utf8.DecodeError :=
  match e.flaw with
  | .cutShort => { e with first := 0, next := e.next - e.first }
  | _ => e

/-- The text of a file. -/
def fileText? (octets : List Nat) : Except Fault String :=
  match Text.Utf8.ofOctets octets with
  | .ok text => .ok (Text.Utf8.withPlainLines text)
  | .error e =>
    .error (.notUtf8 ((countedAlone e).message fun n => String.ofList (Text.hexDigits 2 n)))

/-- The value that a file writes. -/
def fileValue? (octets : List Nat) : Except Flaw Value := do
  valueOf? (← (fileText? octets).mapError .fault)

end Intake.Yaml
