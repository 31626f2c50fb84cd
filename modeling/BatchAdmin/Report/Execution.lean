/-
What clients are told about executions and their steps.

A report is taken at a moment: while an execution has not ended, its
duration is measured up to then. Times that are not known are told as
nothing; an exit status that is not known is left out.
-/
import BatchAdmin.Job.Execution
import BatchAdmin.Time.Elapsed
import BatchAdmin.Time.Written

namespace BatchAdmin

namespace Report

/-- A time as documents carry it. -/
def time (t : Option Instant) : Json :=
  .opt (fun t => .text t.written) t

/-- A duration as documents carry it. -/
def duration (d : Option String) : Json :=
  .opt .text d

/-- Named texts as documents carry them. -/
def dict (d : Dict) : Json :=
  .object (d.entries.map fun (name, value) => (name, .text value))

end Report

-- =============================================================== executions

/-- What clients are told about an execution. -/
structure ExecutionReport where
  id : Int
  job : String
  instanceId : Option Int
  parameters : Dict
  status : Status
  running : Bool
  startTime : Option Instant
  endTime : Option Instant
  lastUpdated : Option Instant
  exit : Option ExitStatus
  stepCount : Nat
  duration : Option String
  deriving DecidableEq

namespace ExecutionReport

/-- The report on an execution at a moment. -/
def of (now : Instant) (e : Execution) : ExecutionReport :=
  { id := e.id, job := e.job, instanceId := e.instanceId
    parameters := e.parameters, status := e.status
    running := e.isRunning, startTime := e.startTime
    endTime := e.endTime, lastUpdated := e.lastUpdated, exit := e.exit
    stepCount := e.steps.length
    duration := Elapsed.between e.startTime e.endTime now }

/-- How an execution ended, as documents carry it. -/
def exitJson (running : Bool) (exit : ExitStatus) : Json :=
  .object [("code", .text exit.code),
    ("description", .text exit.description), ("running", .bool running)]

/-- An execution as a document. -/
def toJson (e : ExecutionReport) : Json :=
  let exit := match e.exit with
    | some exit => [("exitStatus", exitJson e.running exit)]
    | none => []
  .object ([("id", .whole e.id), ("jobName", .text e.job),
    ("jobInstanceId", .opt .whole e.instanceId),
    ("parameters", Report.dict e.parameters),
    ("status", .text e.status.code), ("running", .bool e.running),
    ("startTime", Report.time e.startTime),
    ("endTime", Report.time e.endTime),
    ("lastUpdated", Report.time e.lastUpdated)]
    ++ exit
    ++ [("stepExecutionCount", .nat e.stepCount),
      ("duration", Report.duration e.duration)])

end ExecutionReport

-- ==================================================================== steps

/-- What clients are told about a step. -/
structure StepReport where
  id : Int
  name : String
  executionId : Int
  status : Status
  readCount : Nat
  writeCount : Nat
  commitCount : Nat
  context : List (String × Json)
  startTime : Option Instant
  endTime : Option Instant
  lastUpdated : Option Instant
  duration : Option String

namespace StepReport

/-- The report on a step at a moment. -/
def of (now : Instant) (s : StepExecution) : StepReport :=
  { id := s.id, name := s.name, executionId := s.executionId
    status := s.status, readCount := s.readCount
    writeCount := s.writeCount, commitCount := s.commitCount
    context := s.context, startTime := s.startTime, endTime := s.endTime
    lastUpdated := s.lastUpdated
    duration := Elapsed.between s.startTime s.endTime now }

/-- A step as a document. -/
def toJson (s : StepReport) : Json :=
  .object [("id", .whole s.id), ("name", .text s.name),
    ("jobExecutionId", .whole s.executionId),
    ("status", .text s.status.code), ("readCount", .nat s.readCount),
    ("writeCount", .nat s.writeCount),
    ("commitCount", .nat s.commitCount),
    ("executionContext", .object s.context),
    ("startTime", Report.time s.startTime),
    ("endTime", Report.time s.endTime),
    ("lastUpdated", Report.time s.lastUpdated),
    ("duration", Report.duration s.duration)]

end StepReport

end BatchAdmin
