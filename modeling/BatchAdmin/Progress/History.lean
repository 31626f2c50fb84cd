/-
What earlier executions of a step tell about it.

A history counts the executions that have ended and keeps the least, the
greatest and the mean of how long they took and how much they read. It
is built from one execution after another; one that still runs, or of
which an end of the time span is unknown, is passed over.
-/
import BatchAdmin.Job.Execution
import BatchAdmin.Progress.Quantity

namespace BatchAdmin

/-- The history of a step, its means in numbers of type `α`. -/
structure StepHistory (α : Type) where
  stepName : String
  count : Nat
  meanDuration : α
  minDuration : Nat
  maxDuration : Nat
  meanReads : α
  minReads : Nat
  maxReads : Nat

namespace StepHistory

variable {α : Type} [Quantity α]

open Quantity

/-- No execution yet. -/
def empty (stepName : String) : StepHistory α :=
  { stepName, count := 0
    meanDuration := ofCount 0, minDuration := 0, maxDuration := 0
    meanReads := ofCount 0, minReads := 0, maxReads := 0 }

/-- What an execution counts for: how long it took and how much it read,
if it has ended. -/
def sample? (step : StepExecution) : Option (Nat × Nat) :=
  if step.status.isRunning then none
  else step.duration?.map fun d => (d, step.readCount)

/-- The history with one more sample. -/
def withSample (h : StepHistory α) (duration reads : Nat) :
    StepHistory α :=
  let first := h.count == 0
  { h with
    count := h.count + 1
    meanDuration := meanWith h.meanDuration h.count duration
    minDuration := if first then duration else min h.minDuration duration
    maxDuration := if first then duration else max h.maxDuration duration
    meanReads := meanWith h.meanReads h.count reads
    minReads := if first then reads else min h.minReads reads
    maxReads := if first then reads else max h.maxReads reads }

/-- The history with one more execution. -/
def append (h : StepHistory α) (step : StepExecution) : StepHistory α :=
  match sample? step with
  | some (duration, reads) => h.withSample duration reads
  | none => h

/-- The history that executions make, in their order. -/
def ofSteps (stepName : String) (steps : List StepExecution) :
    StepHistory α :=
  steps.foldl append (empty stepName)

end StepHistory

end BatchAdmin
