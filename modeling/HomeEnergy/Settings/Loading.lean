import HomeEnergy.Document.Yaml
import HomeEnergy.Fault
import HomeEnergy.Settings
import HomeEnergy.Settings.Override

/-!
# Loading settings

Settings are written in a YAML text. When the service starts, overrides from the environment are put
over those of the file.

## Main results

* `CollectorSettings.ofText` — settings from a text alone.
* `CollectorSettings.load` — settings from a file and the environment.
-/

namespace HomeEnergy.CollectorSettings

/-- The start of the names of variables that override settings. -/
def overridePrefix : String := "HOMEWATT_"

/-- The settings that a document gives, or a fault of configuration. -/
def ofMap (failure : String) (d : Option Document) : Outcome CollectorSettings :=
  match d with
  | none => .error (.configuration (failure ++ ": malformed text"))
  | some d =>
    match ofDocument d with
    | none => .error (.configuration (failure ++ ": malformed settings"))
    | some s => .ok s

/-- The settings that a text writes. -/
def ofText (text : String) : Outcome CollectorSettings :=
  ofMap "Failed to parse configuration" (Yaml.readMap text)

/-- The settings of a file, if there is one, and of the environment. -/
def load (path : String) (file : Option String) (environment : List (String × String)) :
    Outcome CollectorSettings :=
  match file with
  | none => .error (.configuration ("Configuration file not found: " ++ path))
  | some text =>
    ofMap "Failed to load configuration" ((Yaml.readMap text).map
      (Document.overlaid · (Override.documentOf overridePrefix environment)))

end HomeEnergy.CollectorSettings
