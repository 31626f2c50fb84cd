/-
The job desk: what clients ask about jobs, executions and steps.

Every answer is a report taken at one moment from one state of the
engine. The progress of a step is judged by the latest thousand
executions of that step in its job, less the step itself.
-/
import BatchAdmin.Engine.Listing
import BatchAdmin.Report.Job
import BatchAdmin.Report.Progress

namespace BatchAdmin.JobDesk

open Engine (window)

-- ===================================================================== jobs

/-- What is told about a job. -/
def summary (engine : Engine) (now : Instant) (job : String) :
    JobSummary :=
  { name := job
    launchable := engine.isLaunchable job
    incrementable := engine.isIncrementable job
    executionCount := (engine.newestOf job).length
    lastExecution := (engine.newestOf job).head?.map (.of now) }

/-- A window of the jobs, by name. -/
def jobs (engine : Engine) (now : Instant) (offset limit : Nat) :
    List JobSummary :=
  (window offset limit engine.jobNames).map (summary engine now)

/-- How many jobs there are. -/
def countJobs (engine : Engine) : Nat := engine.jobNames.length

-- ================================================================ instances

/-- The report on an instance. Its executions are those the engine keeps
under its id. -/
def report (engine : Engine) (now : Instant) (i : JobInstance) :
    Answer InstanceReport :=
  match engine.newestAttempts i.job i.id with
  | .ok executions => .ok (.of now i executions)
  | .error failure => .error failure

/-- A window of the instances of a job, newest first. -/
def instances (engine : Engine) (now : Instant) (job : String)
    (offset limit : Nat) : Answer (List InstanceReport) :=
  (window offset limit (engine.instancesOf job)).mapM (report engine now)

/-- How many instances a job has. -/
def countInstances (engine : Engine) (job : String) : Nat :=
  (engine.instancesOf job).length

/-- The instance with this id. -/
def findInstance (engine : Engine) (now : Instant) (id : Int) :
    Answer InstanceReport := do
  report engine now (← engine.findInstance id)

/-- A job with a window of its instances. -/
def detail (engine : Engine) (now : Instant) (job : String)
    (offset limit : Nat) : Answer JobDetail :=
  if engine.hasJob job then do
    let instances ← instances engine now job offset limit
    return { summary := summary engine now job, instances }
  else .error (.noSuchJob job)

-- =============================================================== executions

/-- The reports on executions. -/
def reports (now : Instant) (es : List Execution) :
    List ExecutionReport :=
  es.map (.of now)

/-- A window of all executions, newest first. -/
def executions (engine : Engine) (now : Instant) (offset limit : Nat) :
    List ExecutionReport :=
  reports now (window offset limit engine.newest)

/-- How many executions there are. -/
def countExecutions (engine : Engine) : Nat := engine.newest.length

/-- A window of the executions of a job, newest first. -/
def executionsOf (engine : Engine) (now : Instant) (job : String)
    (offset limit : Nat) : List ExecutionReport :=
  reports now (window offset limit (engine.newestOf job))

/-- How many executions a job has. -/
def countExecutionsOf (engine : Engine) (job : String) : Nat :=
  (engine.newestOf job).length

/-- The job of an instance: the one that is named, or else the
instance's own. -/
def jobOf (engine : Engine) (job : Option String) (id : Int) :
    Answer String :=
  match job with
  | some job => .ok job
  | none => (engine.findInstance id).map (·.job)

/-- The executions of an instance, newest first; a job that is named
must be the instance's. -/
def executionsOfInstance (engine : Engine) (now : Instant)
    (job : Option String) (id : Int) : Answer (List ExecutionReport) := do
  let job ← jobOf engine job id
  return reports now (← engine.newestAttempts job id)

/-- The execution with this id. -/
def findExecution (engine : Engine) (now : Instant) (id : Int) :
    Answer ExecutionReport := do
  return .of now (← engine.findExecution id)

-- ==================================================================== steps

/-- The steps of an execution. -/
def steps (engine : Engine) (now : Instant) (execution : Int) :
    Answer (List StepReport) := do
  return (← engine.stepsOf execution).map (.of now)

/-- A step of an execution. -/
def findStep (engine : Engine) (now : Instant) (execution step : Int) :
    Answer StepReport := do
  return .of now (← engine.findStep execution step)

/-- How many executions of a step its progress is judged by. -/
def historyLimit : Nat := 1000

/-- What the other executions of a step tell about it. -/
def history (engine : Engine) (job : String) (step : StepExecution) :
    StepHistory Float :=
  let latest := window 0 historyLimit (engine.stepHistory job step.name)
  .ofSteps step.name (latest.filter fun s => s.id ≠ step.id)

/-- The progress of a step. -/
def progress (engine : Engine) (now : Instant) (execution step : Int) :
    Answer ProgressReport := do
  let s ← engine.findStep execution step
  let e ← engine.findExecution execution
  return .of now s (history engine e.job s)

end BatchAdmin.JobDesk
