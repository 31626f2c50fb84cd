/-
Looking things up in the engine.

Listings show the newest entries first and are given through a window,
an offset and a limit; counts are of everything there is. Jobs are
listed by name: those with a definition and those that have executions.
-/
import BatchAdmin.Engine.State

namespace BatchAdmin.Engine

/-- A window on a list. -/
def window {α : Type} (offset limit : Nat) (items : List α) : List α :=
  (items.drop offset).take limit

-- ===================================================================== jobs

/-- The names of all jobs in order. -/
def jobNames (engine : Engine) : List String :=
  let all := engine.definitions.map (·.name)
    ++ engine.executions.map (·.job)
  (all.mergeSort fun a b => decide (a ≤ b)).eraseDups

/-- There is such a job. -/
def hasJob (engine : Engine) (job : String) : Bool :=
  (engine.definition? job).isSome
    || engine.executions.any fun e => e.job == job

/-- Clients may launch the job. -/
def isLaunchable (engine : Engine) (job : String) : Bool :=
  (engine.definition? job).any (·.launchable)

/-- Launches of the job are numbered. -/
def isIncrementable (engine : Engine) (job : String) : Bool :=
  (engine.definition? job).any (·.incrementable)

-- ================================================================ instances

/-- The instances of a job, newest first. -/
def instancesOf (engine : Engine) (job : String) : List JobInstance :=
  (engine.instances.filter fun i => i.job == job).reverse

/-- The instance with this id. -/
def findInstance (engine : Engine) (id : Int) : Answer JobInstance :=
  match engine.instance? id with
  | some i => .ok i
  | none => .error (.noSuchInstance id)

-- =============================================================== executions

/-- All executions, newest first. -/
def newest (engine : Engine) : List Execution :=
  engine.executions.reverse

/-- The executions of a job, newest first. -/
def newestOf (engine : Engine) (job : String) : List Execution :=
  (engine.executionsOf job).reverse

/-- The executions of an instance of a job, newest first. -/
def newestAttempts (engine : Engine) (job : String) (id : Int) :
    Answer (List Execution) :=
  match engine.instance? id with
  | some i =>
      if i.job == job then .ok (engine.attemptsOf id).reverse
      else .error (.noSuchInstance id)
  | none => .error (.noSuchInstance id)

/-- The execution with this id. -/
def findExecution (engine : Engine) (id : Int) : Answer Execution :=
  match engine.execution? id with
  | some e => .ok e
  | none => .error (.noSuchExecution id)

/-- The executions that run, newest first. -/
def running (engine : Engine) : List Execution :=
  engine.newest.filter Execution.isRunning

-- ==================================================================== steps

/-- The steps of an execution, oldest first. -/
def stepsOf (engine : Engine) (execution : Int) :
    Answer (List StepExecution) :=
  match engine.execution? execution with
  | some e => .ok e.steps
  | none => .error (.noSuchExecution execution)

/-- A step of an execution; an unknown execution has no steps. -/
def findStep (engine : Engine) (execution step : Int) :
    Answer StepExecution :=
  match (engine.execution? execution).bind fun e => e.step? step with
  | some s => .ok s
  | none => .error (.noSuchStep execution step)

/-- Every execution of a step of a job, newest first. -/
def stepHistory (engine : Engine) (job step : String) :
    List StepExecution :=
  let all := (engine.executionsOf job).flatMap fun e =>
    e.steps.filter fun s => s.name == step
  all.mergeSort fun a b => decide (b.id ≤ a.id)

end BatchAdmin.Engine
