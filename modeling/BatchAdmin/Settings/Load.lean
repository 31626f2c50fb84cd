/-
Loading settings.

Four layers are put one over another: the defaults, a file, environment
variables and the command line. What comes out is read as settings and
checked. A file that is named has to be there; without a name the usual
one is taken if it is there.
-/
import BatchAdmin.Settings.Decode
import BatchAdmin.Settings.Flags
import BatchAdmin.Settings.Variables
import BatchAdmin.Toml.Reader

namespace BatchAdmin.Settings

/-- Where settings come from. -/
structure Sources where
  /-- The file that was named on the command line. -/
  named : Option String
  /-- The text of the file, where there is one. -/
  file : Option String
  environment : List (String × String)
  /-- The words of the command line. -/
  flags : List String

/-- Why there are no settings. -/
inductive LoadFault where
  /-- The command line is mistaken. -/
  | usage
  /-- The file that was named is not there. -/
  | noFile (name : String)
  /-- What is set cannot be read as settings. -/
  | unreadable
  /-- What is set is not allowed. -/
  | notAllowed (detail : String)
  deriving DecidableEq, Repr

/-- A fault in words. -/
def LoadFault.message : LoadFault → String
  | .usage => "usage"
  | .noFile name => "Config file not found: " ++ name
  | .unreadable => "Failed to load configuration"
  | .notAllowed detail => detail

/-- The document of a file; a file that is not there says nothing. -/
def fileLayer? (file : Option String) : Option Json :=
  match file with
  | some text => Toml.read? text
  | none => some (.object [])

/-- The settings that the layers make. -/
def ofLayers (file environment flags : Json) :
    Except LoadFault Settings :=
  let all :=
    ((default.toJson.overlaid file).overlaid environment).overlaid flags
  match Decode.settings? .lenient all with
  | none => .error .unreadable
  | some settings =>
      match settings.fault? with
      | some detail => .error (.notAllowed detail)
      | none => .ok settings

/-- Loads settings. -/
def load (sources : Sources) : Except LoadFault Settings :=
  match Flags.read? sources.flags, sources.named, sources.file with
  | none, _, _ => .error .usage
  | some _, some name, none => .error (.noFile name)
  | some flags, _, file =>
      match fileLayer? file with
      | none => .error .unreadable
      | some layer =>
          ofLayers layer (Variables.read sources.environment) flags

end BatchAdmin.Settings
