/-
The job desk: launching, stopping and restarting on clients' behalf.

Stopping can be made to fail for single executions; stopping all counts
the ones that did not fail and goes on past the others.
-/
import BatchAdmin.Engine.Control
import BatchAdmin.Engine.Listing
import BatchAdmin.Report.Execution

namespace BatchAdmin.JobDesk

open Text

/-- The answer as a report. -/
def reported (now : Instant) :
    Answer Execution × Engine → Answer ExecutionReport × Engine
  | (.ok e, engine) => (.ok (.of now e), engine)
  | (.error failure, engine) => (.error failure, engine)

/-- Launches a job. -/
def launch (engine : Engine) (now : Instant) (job : String)
    (parameters : Dict) : Answer ExecutionReport × Engine :=
  if engine.hasJob job then
    reported now (engine.launch job parameters now)
  else (.error (.noSuchJob job), engine)

/-- A stop that is made to fail for some executions. -/
def stopUnless (stuck : Int → Bool) (engine : Engine) (now : Instant)
    (id : Int) : Answer Execution × Engine :=
  if stuck id then
    (.error (.engine ("cannot stop " ++ intText id)), engine)
  else engine.stop id now

/-- Stops an execution. -/
def stop (stuck : Int → Bool) (engine : Engine) (now : Instant)
    (id : Int) : Answer ExecutionReport × Engine :=
  match engine.findExecution id with
  | .error failure => (.error failure, engine)
  | .ok _ => reported now (stopUnless stuck engine now id)

/-- Stops executions one by one and counts those that could be
stopped. -/
def stopEach (stuck : Int → Bool) (now : Instant) :
    List Int → Engine → Nat × Engine
  | [], engine => (0, engine)
  | id :: rest, engine =>
      match stopUnless stuck engine now id with
      | (.ok _, engine) =>
          let (count, engine) := stopEach stuck now rest engine
          (count + 1, engine)
      | (.error _, engine) => stopEach stuck now rest engine

/-- Stops every execution that runs; tells how many could be stopped. -/
def stopAll (stuck : Int → Bool) (engine : Engine) (now : Instant) :
    Nat × Engine :=
  stopEach stuck now (engine.running.map (·.id)) engine

/-- Restarts an execution. -/
def restart (engine : Engine) (now : Instant) (id : Int) :
    Answer ExecutionReport × Engine :=
  match engine.findExecution id with
  | .error failure => (.error failure, engine)
  | .ok _ => reported now (engine.restart id now)

end BatchAdmin.JobDesk
