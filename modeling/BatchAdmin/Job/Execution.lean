/-
The records of the engine: instances, executions and steps.

An instance is a job with parameters. Each attempt to run it is an
execution, and what an execution has worked through are its step
executions, oldest first. Counts only ever grow while a step runs.
-/
import BatchAdmin.Job.Status
import BatchAdmin.Dict
import BatchAdmin.Json.Basic
import BatchAdmin.Time.Instant

namespace BatchAdmin

-- ==================================================================== steps

/-- One step of an execution. -/
structure StepExecution where
  id : Int
  name : String
  /-- The execution the step belongs to. -/
  executionId : Int
  status : Status := .starting
  readCount : Nat := 0
  writeCount : Nat := 0
  commitCount : Nat := 0
  context : List (String × Json) := []
  startTime : Option Instant := none
  endTime : Option Instant := none
  lastUpdated : Option Instant := none

namespace StepExecution

/-- How long the step took; known only once it has ended. -/
def duration? (step : StepExecution) : Option Nat :=
  match step.startTime, step.endTime with
  | some start, some stop => some (start.millisBetween stop)
  | _, _ => none

end StepExecution

-- =============================================================== executions

/-- One attempt to run an instance. -/
structure Execution where
  id : Int
  job : String
  /-- None for an execution that is not kept per instance. -/
  instanceId : Option Int
  parameters : Dict
  status : Status := .starting
  startTime : Option Instant := none
  endTime : Option Instant := none
  lastUpdated : Option Instant := none
  exit : Option ExitStatus := none
  steps : List StepExecution := []

namespace Execution

/-- The execution may still change. -/
def isRunning (e : Execution) : Bool := e.status.isRunning

end Execution

-- ================================================================ instances

/-- A job with the parameters that tell its instances apart. -/
structure JobInstance where
  id : Int
  job : String
  identifying : Dict

end BatchAdmin
