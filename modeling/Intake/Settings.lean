import Intake.Definition.Reading

/-!
# Settings

How the engine is set up: how many schemas a cache keeps, whether fields are linted before they
are used and whether mistakes then count as errors, and what is said when a submission fails.

Every setting has a default, so any part of the record that describes settings may be missing.
-/

namespace Intake

/-- The settings of the engine. -/
structure Settings where
  cacheSize : { n : Nat // 0 < n } := ⟨32, by decide⟩
  strictLint : Bool := false
  lintFirst : Bool := true
  failureMessage : String := "Failed to save. Please try again."

namespace Settings

/-- The settings with every default. -/
def usual : Settings := {}

/-- Reads a number of schemas, which has to be positive. -/
def readSize (v : Value) : Reading { n : Nat // 0 < n } :=
  (readInteger v).andThen fun n =>
    if h : 0 < n.toNat then .good ⟨n.toNat, h⟩ else .bad (.below 1)

/-- Reads a message, which must not be blank. -/
def readMessage (v : Value) : Reading String :=
  (readText v).andThen fun s =>
    if Text.isBlankText s then .bad (.refused "submission_error_message must not be blank")
    else .good s

/-- Reads settings. -/
def read : Value → Reading Settings :=
  readRecord "EngineConfig" fun r =>
    Settings.mk
      <$> readPartOr r ["schema_cache_size"] usual.cacheSize readSize
      <*> readPartOr r ["strict_lint"] usual.strictLint readBoolean
      <*> readPartOr r ["lint_on_build"] usual.lintFirst readBoolean
      <*> readPartOr r ["submission_error_message"] usual.failureMessage readMessage

/-- Settings as a value. -/
def toValue (s : Settings) : Value :=
  .dict [(.text "schema_cache_size", .int s.cacheSize),
    (.text "strict_lint", .bool s.strictLint), (.text "lint_on_build", .bool s.lintFirst),
    (.text "submission_error_message", .text s.failureMessage)]

end Settings

end Intake
