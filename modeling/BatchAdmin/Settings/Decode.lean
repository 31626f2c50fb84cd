/-
Settings from documents.

A record is written as an object, where unknown fields are passed over
and missing ones have their defaults, or as a list of its fields in
order, where those at the end may be missing. Whether a list may have
more items than the record has fields depends on where it comes from: a
request is read strictly, settings files and variables are not.
-/
import BatchAdmin.Settings.Basic

namespace BatchAdmin.Decode

open Text

-- ================================================================== records

/-- How exact a document has to be. -/
inductive Strictness where
  | strict
  | lenient
  deriving DecidableEq

/-- The fields of a record: the document under each name. -/
abbrev Fields := String → Option Json

/-- Pairs of names and items, the names in order. -/
def byPlace (names : List String) (items : List Json) : Fields :=
  fun name => Json.lastField? name (names.zip items)

/-- The fields of a document that stands for a record. -/
def record? (strictness : Strictness) (names : List String) :
    Json → Option Fields
  | .object fields => some fun name => Json.lastField? name fields
  | .list items =>
      if strictness = .strict ∧ names.length < items.length then none
      else some (byPlace names items)
  | _ => none

/-- A field that may be missing. -/
def optional {α : Type} (fields : Fields) (name : String) (missing : α)
    (decode : Json → Option α) : Option α :=
  match fields name with
  | some doc => decode doc
  | none => some missing

/-- A field that may not be missing. -/
def required {α : Type} (fields : Fields) (name : String)
    (decode : Json → Option α) : Option α :=
  (fields name).bind decode

-- =================================================================== values

/-- A truth value. -/
def bool? : Json → Option Bool
  | .bool b => some b
  | _ => none

/-- A text. -/
def text? : Json → Option String
  | .text s => some s
  | _ => none

/-- A text or nothing. -/
def optionalText? : Json → Option (Option String)
  | .null => some none
  | .text s => some (some s)
  | _ => none

/-- One of several names: the name, or the name with nothing under
it. -/
def name? : Json → Option String
  | .text name => some name
  | .object [(name, .null)] => some name
  | _ => none

/-- A whole number below a bound. -/
def count? (bound : Nat) : Json → Option Nat
  | .whole n => if 0 ≤ n ∧ n < bound then some n.toNat else none
  | _ => none

/-- A list of things. -/
def list? {α : Type} (item : Json → Option α) : Json → Option (List α)
  | .list items => items.mapM item
  | _ => none

-- ==================================================================== parts

/-- A job definition. -/
def job? (strictness : Strictness) (doc : Json) : Option JobDefinition := do
  let f ← record? strictness
    ["name", "launchable", "incrementable", "restartable", "concurrent",
      "required_parameters", "steps"] doc
  let name ← required f "name" text?
  let launchable ← optional f "launchable" true bool?
  let incrementable ← optional f "incrementable" false bool?
  let restartable ← optional f "restartable" true bool?
  let concurrent ← optional f "concurrent" false bool?
  let requiredParameters ←
    optional f "required_parameters" [] (list? text?)
  let steps ← optional f "steps" [] (list? text?)
  return { name, launchable, incrementable, restartable, concurrent
           requiredParameters, steps }

/-- The kind of channel with this name. -/
def channelNamed? (name : String) : Option ChannelKind :=
  [ChannelKind.none, .log, .webhook].find? fun k =>
    Settings.channelName k == name

/-- A kind of channel. -/
def channel? (doc : Json) : Option ChannelKind :=
  (name? doc).bind channelNamed?

/-- The wanted channel. -/
def publish? (strictness : Strictness) (doc : Json) :
    Option PublishRules := do
  let f ← record? strictness ["channel", "webhook_url"] doc
  let kind ← optional f "channel" .none channel?
  let webhookUrl ← optional f "webhook_url" none optionalText?
  return { kind, webhookUrl }

/-- An address to listen on. -/
def address? (doc : Json) : Option ListenAddress :=
  (text? doc).bind ListenAddress.read?

/-- How the gateway is reached. -/
def http? (strictness : Strictness) (doc : Json) :
    Option HttpSettings := do
  let usual := Settings.default.http
  let f ← record? strictness
    ["bind", "base_path", "default_page_size"] doc
  let bind ← optional f "bind" usual.bind address?
  let basePath ← optional f "base_path" usual.basePath text?
  let defaultPageSize ← optional f "default_page_size"
    usual.defaultPageSize (count? 4294967296)
  return { bind, basePath, defaultPageSize }

/-- Where staged files are kept. -/
def files? (strictness : Strictness) (doc : Json) :
    Option FileSettings := do
  let usual := Settings.default.files
  let f ← record? strictness
    ["staging_directory", "short_path_root", "allow_overwrite"] doc
  let stagingDirectory ←
    optional f "staging_directory" usual.stagingDirectory text?
  let shortPathRoot ←
    optional f "short_path_root" usual.shortPathRoot text?
  let allowOverwrite ←
    optional f "allow_overwrite" usual.allowOverwrite bool?
  return { stagingDirectory, shortPathRoot, allowOverwrite }

/-- Whether executions are driven by runners. -/
def simulation? (strictness : Strictness) (doc : Json) :
    Option SimulationSettings := do
  let usual := Settings.default.simulation
  let f ← record? strictness ["enabled", "step_duration_ms"] doc
  let enabled ← optional f "enabled" usual.enabled bool?
  let stepDuration ← optional f "step_duration_ms" usual.stepDuration
    (count? (maxWord + 1))
  return { enabled, stepDuration }

-- ============================================================= all settings

/-- All settings. -/
def settings? (strictness : Strictness) (doc : Json) :
    Option Settings := do
  let usual := Settings.default
  let f ← record? strictness
    ["http", "files", "publish", "simulation", "jobs", "verbose",
      "json_logs"] doc
  let http ← optional f "http" usual.http (http? strictness)
  let files ← optional f "files" usual.files (files? strictness)
  let publish ← optional f "publish" usual.publish (publish? strictness)
  let simulation ←
    optional f "simulation" usual.simulation (simulation? strictness)
  let jobs ← optional f "jobs" usual.jobs (list? (job? strictness))
  let verbose ← optional f "verbose" usual.verbose bool?
  let jsonLogs ← optional f "json_logs" usual.jsonLogs bool?
  return { http, files, publish, simulation, jobs, verbose, jsonLogs }

end BatchAdmin.Decode
