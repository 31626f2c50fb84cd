/-
Control of executions: launch, stop and restart.

Each is one step on the engine. A launch or restart first looks whether
it may go ahead and changes nothing if not; the checks stand in a fixed
order, and the first that fails is the answer. Launching looks at the
whole job (unless executions of it may overlap) and then at the instance
with the same parameters; restarting looks at the instance alone.

Where launches are numbered, the number is one more than the largest
that any execution of the job carries, and is itself a parameter, so
that every launch is an instance of its own.
-/
import BatchAdmin.Engine.Steps
import BatchAdmin.Text.Numeral

namespace BatchAdmin.Engine

open Text

-- ============================================================== run numbers

/-- The parameter that numbers the launches of a job. -/
def runNumberKey : String := "run.id"

/-- The run number an execution carries. -/
def runNumber? (e : Execution) : Option Int :=
  (e.parameters.get? runNumberKey).bind fun text => readInt64 text.toList

/-- The run number of the next launch. -/
def nextRunNumber (engine : Engine) (job : String) : Int :=
  (((engine.executionsOf job).filterMap runNumber?).max?.getD 0) + 1

/-- The parameters a launch goes ahead with. -/
def effective (engine : Engine) (definition : JobDefinition)
    (parameters : Dict) : Dict :=
  if definition.incrementable then
    parameters.insert runNumberKey
      (intText (engine.nextRunNumber definition.name))
  else parameters

-- =============================================================== the checks

/-- The required parameters that are not there. -/
def missing (definition : JobDefinition) (parameters : Dict) :
    List String :=
  definition.requiredParameters.filter fun name => !parameters.has name

/-- The definition of a job that may be launched with these
parameters. -/
def launchable (engine : Engine) (job : String) (parameters : Dict) :
    Answer JobDefinition :=
  match engine.definition? job with
  | none => .error (.noSuchJob job)
  | some definition =>
      if !definition.launchable then
        .error (.invalidParameters ("job " ++ job ++ " is not launchable"))
      else if missing definition parameters ≠ [] then
        .error (.invalidParameters ("missing required parameters: "
          ++ ", ".intercalate (missing definition parameters)))
      else if !definition.concurrent
          && (engine.executionsOf job).any Execution.isRunning then
        .error (.jobRunning job)
      else .ok definition

/-- An instance can be run again while no execution of it runs and none
has completed. -/
def unfinished (engine : Engine) (id : Int) (job : String) :
    Answer Unit :=
  let attempts := engine.attemptsOf id
  if attempts.any Execution.isRunning then .error (.jobRunning job)
  else if attempts.any fun e => e.status = .completed then
    .error (.instanceComplete job)
  else .ok ()

/-- The execution to be restarted, its instance and its definition. -/
def restartable (engine : Engine) (id : Int) :
    Answer (Execution × Int × JobDefinition) :=
  match engine.execution? id with
  | none => .error (.noSuchExecution id)
  | some e =>
      match e.instanceId, engine.definition? e.job with
      | none, _ => .error (.notRestartable id)
      | some _, none => .error (.noSuchJob e.job)
      | some instanceId, some definition =>
          if !definition.restartable then .error (.notRestartable id)
          else if e.isRunning then .error (.jobRunning e.job)
          else if e.status ≠ .stopped ∧ e.status ≠ .failed then
            .error (.notRestartable id)
          else
            match engine.unfinished instanceId e.job with
            | .error failure => .error failure
            | .ok () => .ok (e, instanceId, definition)

-- =============================================================== going ahead

/-- Adds an execution of an instance, and a runner for it if the engine
has runners. -/
def begin (engine : Engine) (job : String) (instanceId : Int)
    (parameters : Dict) (steps : List String) (now : Instant) :
    Execution × Engine :=
  let id := engine.lastExecution + 1
  let e : Execution :=
    { id, job, instanceId := some instanceId, parameters
      status := .started, startTime := some now, lastUpdated := some now }
  let engine := { engine with
    lastExecution := id, executions := engine.executions ++ [e] }
  if engine.pace.isSome then
    (e, { engine with
      attached := engine.attached ++ [id]
      runners := engine.runners ++
        [{ execution := id, todo := steps, phase := .starting }] })
  else (e, engine)

/-- The instance of a job with these parameters. -/
def instanceFor? (engine : Engine) (job : String) (parameters : Dict) :
    Option JobInstance :=
  engine.instances.find? fun i =>
    i.job == job && decide (i.identifying = parameters)

/-- Adds an instance. -/
def addInstance (engine : Engine) (job : String) (parameters : Dict) :
    Int × Engine :=
  let id := engine.lastInstance + 1
  (id, { engine with
    lastInstance := id
    instances := engine.instances ++
      [{ id, job, identifying := parameters }] })

/-- Launches a job. -/
def launch (engine : Engine) (job : String) (parameters : Dict)
    (now : Instant) : Answer Execution × Engine :=
  match engine.launchable job parameters with
  | .error failure => (.error failure, engine)
  | .ok definition =>
      let parameters := engine.effective definition parameters
      match engine.instanceFor? job parameters with
      | some i =>
          match engine.unfinished i.id job with
          | .error failure => (.error failure, engine)
          | .ok () =>
              let (e, engine) :=
                engine.begin job i.id parameters definition.steps now
              (.ok e, engine)
      | none =>
          let (id, engine) := engine.addInstance job parameters
          let (e, engine) :=
            engine.begin job id parameters definition.steps now
          (.ok e, engine)

/-- Stops an execution. One that has ended is left as it is, one with a
runner is marked for the runner to stop, any other stops at once. -/
def stop (engine : Engine) (id : Int) (now : Instant) :
    Answer Execution × Engine :=
  match engine.execution? id with
  | none => (.error (.noSuchExecution id), engine)
  | some e =>
      if !e.isRunning then (.ok e, engine)
      else
        let e := { e with status := .stopping, lastUpdated := some now }
        if engine.attached.contains id then (.ok e, engine.put e)
        else (engine.put e).finish id .stopped .stopped now

/-- Starts a new execution where a stopped or failed one left off. -/
def restart (engine : Engine) (id : Int) (now : Instant) :
    Answer Execution × Engine :=
  match engine.restartable id with
  | .error failure => (.error failure, engine)
  | .ok (e, instanceId, definition) =>
      let (e, engine) :=
        engine.begin e.job instanceId e.parameters definition.steps now
      (.ok e, engine)

end BatchAdmin.Engine
