/-
The settings of the gateway.
-/
import BatchAdmin.Settings.Address
import BatchAdmin.Job.Definition
import BatchAdmin.Publishing.Channel
import BatchAdmin.Staging.Desk

namespace BatchAdmin

-- ================================================================ the parts

/-- How the gateway is reached. -/
structure HttpSettings where
  bind : ListenAddress
  /-- Stands before every route and every link. -/
  basePath : String
  defaultPageSize : Nat
  deriving DecidableEq, Repr

/-- Where staged files are kept and how they are treated. -/
structure FileSettings where
  stagingDirectory : String
  /-- The folder left out of short paths. -/
  shortPathRoot : String
  /-- A path that has a file may get another. -/
  allowOverwrite : Bool
  deriving DecidableEq, Repr

/-- Whether launched executions are driven by runners. -/
structure SimulationSettings where
  enabled : Bool
  /-- Milliseconds a runner spends on a step. -/
  stepDuration : Nat
  deriving DecidableEq, Repr

/-- All settings. -/
structure Settings where
  http : HttpSettings
  files : FileSettings
  publish : PublishRules
  simulation : SimulationSettings
  jobs : List JobDefinition
  verbose : Bool
  jsonLogs : Bool
  deriving DecidableEq, Repr

-- ============================================================= the defaults

namespace Settings

/-- The settings where nothing is said. -/
def default : Settings :=
  { http :=
      { bind := ⟨.four [127, 0, 0, 1], 8080⟩
        basePath := "", defaultPageSize := 20 }
    files :=
      { stagingDirectory := "staging", shortPathRoot := ""
        allowOverwrite := true }
    publish := { kind := .none, webhookUrl := none }
    simulation := { enabled := false, stepDuration := 5000 }
    jobs := [], verbose := false, jsonLogs := false }

/-- The rules the settings make for the staging desk. -/
def deskRules (s : Settings) : DeskRules :=
  { allowOverwrite := s.files.allowOverwrite
    shortPathRoot := s.files.shortPathRoot }

/-- The log filter where the surroundings name none. -/
def logFilter (verbose : Bool) : String :=
  if verbose then "batchgate=debug" else "batchgate=info"

-- =============================================================== validation

/-- What is wrong with settings that could be read. -/
def fault? (s : Settings) : Option String :=
  if s.http.defaultPageSize = 0 then
    some "http.default_page_size must be greater than 0"
  else if s.http.basePath ≠ "" ∧ s.http.basePath.toList.head? ≠ some '/'
  then some "http.base_path must start with '/'"
  else none

-- ============================================================= as documents

/-- The name of a kind of channel. -/
def channelName : ChannelKind → String
  | .none => "none"
  | .log => "log"
  | .webhook => "webhook"

/-- The wanted channel as a document. -/
def publishJson (p : PublishRules) : Json :=
  .object [("channel", .text (channelName p.kind)),
    ("webhook_url", .opt .text p.webhookUrl)]

/-- A job definition as a document. -/
def jobJson (d : JobDefinition) : Json :=
  .object [("name", .text d.name), ("launchable", .bool d.launchable),
    ("incrementable", .bool d.incrementable),
    ("restartable", .bool d.restartable),
    ("concurrent", .bool d.concurrent),
    ("required_parameters",
      .list (d.requiredParameters.map .text)),
    ("steps", .list (d.steps.map .text))]

/-- Settings as a document. -/
def toJson (s : Settings) : Json :=
  .object [
    ("http", .object [("bind", .text s.http.bind.text),
      ("base_path", .text s.http.basePath),
      ("default_page_size", .nat s.http.defaultPageSize)]),
    ("files", .object [
      ("staging_directory", .text s.files.stagingDirectory),
      ("short_path_root", .text s.files.shortPathRoot),
      ("allow_overwrite", .bool s.files.allowOverwrite)]),
    ("publish", publishJson s.publish),
    ("simulation", .object [
      ("enabled", .bool s.simulation.enabled),
      ("step_duration_ms", .nat s.simulation.stepDuration)]),
    ("jobs", .list (s.jobs.map jobJson)),
    ("verbose", .bool s.verbose), ("json_logs", .bool s.jsonLogs)]

end Settings

end BatchAdmin
