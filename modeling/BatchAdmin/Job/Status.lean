/-
Where an execution stands, and how it ended.

Three statuses are running ones: what has them may still change. Each
status has a code, in capitals, which documents carry and from which it
is read back exactly, and a word, which messages use.
-/
namespace BatchAdmin

-- =============================================================== the status

/-- Where an execution or a step stands. -/
inductive Status where
  | starting
  | started
  | stopping
  | stopped
  | completed
  | failed
  | abandoned
  | unknown
  deriving DecidableEq, Repr, Inhabited

namespace Status

/-- What has this status may still change. -/
def isRunning : Status → Bool
  | .starting | .started | .stopping => true
  | _ => false

/-- The status as messages name it. -/
def word : Status → String
  | .starting => "Starting"
  | .started => "Started"
  | .stopping => "Stopping"
  | .stopped => "Stopped"
  | .completed => "Completed"
  | .failed => "Failed"
  | .abandoned => "Abandoned"
  | .unknown => "Unknown"

/-- The status as documents carry it. -/
def code : Status → String
  | .starting => "STARTING"
  | .started => "STARTED"
  | .stopping => "STOPPING"
  | .stopped => "STOPPED"
  | .completed => "COMPLETED"
  | .failed => "FAILED"
  | .abandoned => "ABANDONED"
  | .unknown => "UNKNOWN"

/-- Every status once. -/
def all : List Status :=
  [.starting, .started, .stopping, .stopped, .completed, .failed,
    .abandoned, .unknown]

/-- The status with this code. -/
def ofCode? (code : String) : Option Status :=
  all.find? fun s => s.code == code

/-- A status is read back from its code. -/
theorem ofCode?_code (s : Status) : ofCode? s.code = some s := by
  cases s <;> decide

end Status

-- ================================================================== the end

/-- How an execution ended. -/
structure ExitStatus where
  code : String
  description : String
  deriving DecidableEq, Repr

namespace ExitStatus

/-- It got through all its steps. -/
def completed : ExitStatus := ⟨"COMPLETED", ""⟩

/-- It was stopped on request. -/
def stopped : ExitStatus := ⟨"STOPPED", ""⟩

/-- It failed. -/
def failed (description : String) : ExitStatus := ⟨"FAILED", description⟩

end ExitStatus

end BatchAdmin
