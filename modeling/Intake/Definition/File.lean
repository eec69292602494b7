import Intake.Definition.Form
import Intake.Settings
import Intake.Yaml.File

/-!
# Forms and settings in files

A file holds a form or settings in YAML, of which JSON is a part.  A form has to be there;
settings that are missing, or a file of them that says nothing, leave everything as usual.

* `loadForm` loads a form; one without a name is called after its file;
* `loadSettings` loads settings, from the file that is given or else from the usual one.
-/

namespace Intake

/-- The octets of the file at a path, if there is one. -/
abbrev Files := String → Option (List Nat)

/-- The form in the file at a path. -/
def loadForm (origin : Origin) (files : Files) (path : String) : Load Form :=
  match files path with
  | none => refuse (.noFile path)
  | some octets =>
    match Yaml.fileValue? octets with
    | .error .malformed => refuse .badYaml
    | .error (.fault f) => .error (.fault f)
    | .ok .null => refuse (.emptyFile path)
    | .ok data => Form.ofData? origin path data

/-- Why settings could not be loaded. -/
inductive SettingsError where
  | badYaml (path : String)
  | invalid (path : String) (issues : List Issue)
  | fault (f : Fault)

/-- The wording of a refusal of settings. -/
def SettingsError.message : SettingsError → String
  | .badYaml path => "Invalid YAML in engine config " ++ Path.plain path
  | .invalid path _ => "Failed to load engine config from " ++ Path.plain path
  | .fault f => f.message

/-- The settings in the file at a path. -/
def settingsIn (files : Files) (path : String) : Except SettingsError Settings :=
  match files path with
  | none => .ok .usual
  | some octets =>
    match Yaml.fileValue? octets with
    | .error .malformed => .error (.badYaml path)
    | .error (.fault f) => .error (.fault f)
    | .ok .null => .ok .usual
    | .ok data =>
      match Settings.read data with
      | .error f => .error (.fault f)
      | .ok (.error issues) => .error (.invalid path issues)
      | .ok (.ok settings) => .ok settings

/-- The settings in the file that is given, or else in the usual one; an empty path says that
there is no usual one. -/
def loadSettings (files : Files) (given usual : Option String) : Except SettingsError Settings :=
  match given.or (usual.filter fun path => !path.isEmpty) with
  | none => .ok .usual
  | some path => settingsIn files path

end Intake
