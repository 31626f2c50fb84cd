/-
The state of the job engine.

Instances and executions are kept in the order of their ids, which is
the order in which they came to be: ids are handed out by counters that
only rise. An execution is `attached` while a runner answers for it, so
that a stop is left to the runner; `runners` are the runners themselves,
which go on for as long as they have something to do.
-/
import BatchAdmin.Job.Definition
import BatchAdmin.Job.Execution
import BatchAdmin.Failure

namespace BatchAdmin

-- ============================================================== the runners

/-- What a runner does next. -/
inductive Phase where
  /-- Start the next step, or close the execution if none is left. -/
  | starting
  /-- Wait, then see whether a stop was asked for. -/
  | resting (step : Int) (ticks : Nat) (wake : Instant)
  /-- Record a chunk of items. -/
  | recording (step : Int) (ticks : Nat)
  /-- Close the step. -/
  | closing (step : Int)
  /-- Close the execution as stopped. -/
  | stopping
  deriving DecidableEq, Repr

/-- A runner takes one execution through its steps. -/
structure Runner where
  execution : Int
  /-- The steps not yet started. -/
  todo : List String
  phase : Phase
  deriving DecidableEq, Repr

-- ================================================================ the state

/-- The job engine. -/
structure Engine where
  definitions : List JobDefinition
  /-- Milliseconds a runner spends on a step; without them launched
  executions get no runner. -/
  pace : Option Nat
  instances : List JobInstance
  executions : List Execution
  attached : List Int
  runners : List Runner
  lastInstance : Int
  lastExecution : Int
  lastStep : Int

namespace Engine

/-- An engine that has run nothing. -/
def fresh (definitions : List JobDefinition) (pace : Option Nat) :
    Engine :=
  { definitions, pace, instances := [], executions := [], attached := []
    runners := [], lastInstance := 0, lastExecution := 0, lastStep := 0 }

-- ----------------------------------------------------------------- look-ups

/-- The definition of a job; of two with one name the later counts. -/
def definition? (engine : Engine) (job : String) : Option JobDefinition :=
  engine.definitions.reverse.find? fun d => d.name == job

/-- The execution with this id. -/
def execution? (engine : Engine) (id : Int) : Option Execution :=
  engine.executions.find? fun e => e.id == id

/-- The instance with this id. -/
def instance? (engine : Engine) (id : Int) : Option JobInstance :=
  engine.instances.find? fun i => i.id == id

/-- The executions of a job, oldest first. -/
def executionsOf (engine : Engine) (job : String) : List Execution :=
  engine.executions.filter fun e => e.job == job

/-- The executions of an instance, oldest first. -/
def attemptsOf (engine : Engine) (id : Int) : List Execution :=
  engine.executions.filter fun e => e.instanceId == some id

-- ----------------------------------------------------------------- changing

/-- The execution put in place of the one with its id. -/
def put (engine : Engine) (execution : Execution) : Engine :=
  { engine with
    executions := engine.executions.map fun e =>
      if e.id = execution.id then execution else e }

end Engine

namespace Execution

/-- The step with this id. -/
def step? (e : Execution) (id : Int) : Option StepExecution :=
  e.steps.find? fun s => s.id == id

/-- The step put in place of the one with its id. -/
def putStep (e : Execution) (step : StepExecution) : Execution :=
  { e with
    steps := e.steps.map fun s => if s.id = step.id then step else s }

end Execution

end BatchAdmin
