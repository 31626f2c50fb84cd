/-
The command line in words.

The first word names the command: `serve` answers requests, `status`
tells how a gateway with these settings is. Both take the flags of the
settings, and `--config` with the name of a settings file, which may
stand anywhere among them but only once.
-/
import BatchAdmin.Settings.Load

namespace BatchAdmin

open Text

/-- What the program is asked to do. -/
inductive Command where
  | serve
  | status
  deriving DecidableEq, Repr

/-- A command with the words behind it. -/
structure CommandLine where
  command : Command
  /-- The settings file that is named. -/
  named : Option String
  /-- The other words, which set single settings. -/
  flags : List String
  deriving DecidableEq, Repr

namespace Command

/-- The command with this name. -/
def ofName? (name : String) : Option Command :=
  if name = "serve" then some .serve
  else if name = "status" then some .status
  else none

/-- The flag that names a settings file. -/
def fileFlag : String := "--config"

/-- The file that words name, and the words without it; none if it is
named twice or by nothing. -/
def takeFile : List String → Option (Option String × List String)
  | [] => some (none, [])
  | word :: rest =>
      if word = fileFlag then
        match rest with
        | name :: rest => named name rest
        | [] => none
      else
        match after? (fileFlag ++ "=").toList word.toList with
        | some name => named (String.ofList name) rest
        | none =>
            (takeFile rest).map fun (found, rest) => (found, word :: rest)
where
  /-- The file is named; no other word may name one. -/
  named (name : String) (rest : List String) :
      Option (Option String × List String) :=
    if rest.any fun word => (after? fileFlag.toList word.toList).isSome
    then none
    else some (some name, rest)

/-- The command line that words make. -/
def read? : List String → Option CommandLine
  | [] => none
  | name :: rest => do
      let command ← ofName? name
      let (named, flags) ← takeFile rest
      return { command, named, flags }

/-- How the program is used. -/
def usage : String :=
  "usage: batchadmin (serve | status) [--config FILE] [--bind ADDRESS] "
    ++ "[--base-path PATH] [--staging-directory FOLDER] "
    ++ "[--simulation BOOL] [--verbose BOOL] [--json-logs BOOL]"

/-- The settings file that is read where none is named. -/
def usualFile : String := "batchgate.toml"

/-- The environment variables that set single settings. -/
def variableNames : List String :=
  ["HTTP__BIND", "HTTP__BASE_PATH", "HTTP__DEFAULT_PAGE_SIZE",
    "FILES__STAGING_DIRECTORY", "FILES__SHORT_PATH_ROOT",
    "FILES__ALLOW_OVERWRITE", "PUBLISH__CHANNEL",
    "PUBLISH__WEBHOOK_URL", "SIMULATION__ENABLED",
    "SIMULATION__STEP_DURATION_MS", "JOBS", "VERBOSE",
    "JSON_LOGS"].map ("BATCHGATE_" ++ ·)

/-- The settings of a command line, given the text of its file and the
variables that are set. -/
def settings (line : CommandLine) (file : Option String)
    (environment : List (String × String)) :
    Except Settings.LoadFault Settings :=
  Settings.load { named := line.named, file, environment
                  flags := line.flags }

end Command

end BatchAdmin
