/-
What clients are told about the progress of a step.
-/
import BatchAdmin.Report.Execution
import BatchAdmin.Progress.Estimate

namespace BatchAdmin

/-- A history as a document. -/
def StepHistory.toJson (h : StepHistory Float) : Json :=
  .object [("stepName", .text h.stepName), ("count", .nat h.count),
    ("meanDurationMs", .decimal (.shortest h.meanDuration)),
    ("minDurationMs", .nat h.minDuration),
    ("maxDurationMs", .nat h.maxDuration),
    ("meanReadCount", .decimal (.shortest h.meanReads)),
    ("minReadCount", .nat h.minReads),
    ("maxReadCount", .nat h.maxReads)]

/-- What clients are told about the progress of a step. -/
structure ProgressReport where
  current : StepReport
  fraction : Option Float
  expected : Option String
  finished : Bool
  message : String
  history : StepHistory Float

namespace ProgressReport

/-- Milliseconds as a clock shows them, rounded to whole ones; a half
goes up. -/
def roundedClock (millis : Float) : String :=
  Elapsed.clock millis.round.toUInt64.toNat

/-- The report on a step with its history at a moment. -/
def of (now : Instant) (step : StepExecution) (h : StepHistory Float) :
    ProgressReport :=
  let estimate := Estimate.of step h now
  { current := .of now step
    fraction := estimate.fraction?
    expected := h.expected?.map roundedClock
    finished := !step.status.isRunning
    message := estimate.message step h
    history := h }

/-- The progress of a step as a document; what is not known is left
out. -/
def toJson (p : ProgressReport) : Json :=
  let fraction := match p.fraction with
    | some x => [("percentComplete", .decimal (.shortest x))]
    | none => []
  let expected := match p.expected with
    | some clock => [("estimatedDuration", .text clock)]
    | none => []
  .object ([("current", p.current.toJson)] ++ fraction ++ expected
    ++ [("finished", .bool p.finished), ("message", .text p.message),
      ("history", p.history.toJson)])

end ProgressReport

end BatchAdmin
