/-
What clients are told about jobs and their instances.
-/
import BatchAdmin.Report.Execution

namespace BatchAdmin

-- ================================================================ instances

/-- What clients are told about an instance. -/
structure InstanceReport where
  id : Int
  job : String
  /-- Its executions, newest first. -/
  executions : List ExecutionReport

namespace InstanceReport

/-- The report on an instance with its executions. -/
def of (now : Instant) (i : JobInstance) (executions : List Execution) :
    InstanceReport :=
  { id := i.id, job := i.job
    executions := executions.map (.of now) }

/-- An instance as a document. -/
def toJson (i : InstanceReport) : Json :=
  .object [("id", .whole i.id), ("jobName", .text i.job),
    ("executions", .list (i.executions.map (·.toJson)))]

end InstanceReport

-- ===================================================================== jobs

/-- What clients are told about a job. -/
structure JobSummary where
  name : String
  launchable : Bool
  incrementable : Bool
  executionCount : Nat
  lastExecution : Option ExecutionReport

namespace JobSummary

/-- The fields of a job. -/
def fields (j : JobSummary) : List (String × Json) :=
  [("name", .text j.name), ("launchable", .bool j.launchable),
    ("incrementable", .bool j.incrementable),
    ("executionCount", .nat j.executionCount),
    ("lastExecution", .opt (·.toJson) j.lastExecution)]

/-- A job as a document. -/
def toJson (j : JobSummary) : Json := .object j.fields

end JobSummary

/-- A job with a window of its instances. -/
structure JobDetail where
  summary : JobSummary
  instances : List InstanceReport

/-- A job with its instances as a document. -/
def JobDetail.toJson (j : JobDetail) : Json :=
  .object (j.summary.fields
    ++ [("jobInstances", .list (j.instances.map (·.toJson)))])

end BatchAdmin
