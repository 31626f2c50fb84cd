/-
Working through an execution: its steps, their chunks and its end.

These are the calls by which whoever runs an execution reports what it
does. Each is one step on the engine and none asks whether the execution
is still running; a caller that reports on a finished execution changes
its record. Closing an execution closes what still runs in it at the
same moment and with the same status.
-/
import BatchAdmin.Engine.State

namespace BatchAdmin.Engine

-- ==================================================================== steps

/-- Starts a step and tells its id. The id is used up even when there is
no such execution. -/
def startStep (engine : Engine) (execution : Int) (name : String)
    (now : Instant) : Answer Int × Engine :=
  let id := engine.lastStep + 1
  let engine := { engine with lastStep := id }
  match engine.execution? execution with
  | none => (.error (.noSuchExecution execution), engine)
  | some e =>
      let step : StepExecution :=
        { id, name, executionId := execution, status := .started
          startTime := some now, lastUpdated := some now }
      (.ok id, engine.put
        { e with steps := e.steps ++ [step], lastUpdated := some now })

/-- The execution and the step that a report is about. -/
def reported (engine : Engine) (execution step : Int) :
    Answer (Execution × StepExecution) :=
  match engine.execution? execution with
  | none => .error (.noSuchExecution execution)
  | some e =>
      match e.step? step with
      | none => .error (.noSuchStep execution step)
      | some s => .ok (e, s)

/-- The field of a step's context that says how far it has read. -/
def readCountKey : String := "read.count"

/-- The context with a value under a name. -/
def setContext (name : String) (value : Json)
    (context : List (String × Json)) : List (String × Json) :=
  context.filter (fun f => f.1 != name) ++ [(name, value)]

/-- A step after a chunk of items that were read, written and
committed. -/
def withChunk (step : StepExecution) (items : Nat) (now : Instant) :
    StepExecution :=
  let readCount := step.readCount + items
  { step with
    readCount
    writeCount := step.writeCount + items
    commitCount := step.commitCount + 1
    context := setContext readCountKey (.nat readCount) step.context
    lastUpdated := some now }

/-- Records a chunk of items. -/
def recordChunk (engine : Engine) (execution step : Int) (items : Nat)
    (now : Instant) : Answer Unit × Engine :=
  match engine.reported execution step with
  | .error failure => (.error failure, engine)
  | .ok (e, s) =>
      let e := e.putStep (withChunk s items now)
      (.ok (), engine.put { e with lastUpdated := some now })

/-- A step that has ended. -/
def ended (step : StepExecution) (status : Status) (now : Instant) :
    StepExecution :=
  { step with status, endTime := some now, lastUpdated := some now }

/-- Ends a step. Only the step's own record is touched. -/
def finishStep (engine : Engine) (execution step : Int)
    (status : Status) (now : Instant) : Answer Unit × Engine :=
  match engine.reported execution step with
  | .error failure => (.error failure, engine)
  | .ok (e, s) => (.ok (), engine.put (e.putStep (ended s status now)))

-- ================================================================== the end

/-- An execution that has ended, and with it what still ran in it. -/
def closed (e : Execution) (status : Status) (exit : ExitStatus)
    (now : Instant) : Execution :=
  { e with
    status, exit := some exit, endTime := some now
    lastUpdated := some now
    steps := e.steps.map fun s =>
      if s.status.isRunning then ended s status now else s }

/-- Ends an execution; no runner answers for it any more. -/
def finish (engine : Engine) (execution : Int) (status : Status)
    (exit : ExitStatus) (now : Instant) : Answer Execution × Engine :=
  match engine.execution? execution with
  | none => (.error (.noSuchExecution execution), engine)
  | some e =>
      let e := closed e status exit now
      (.ok e, { engine.put e with
        attached := engine.attached.filter (· ≠ execution) })

end BatchAdmin.Engine
