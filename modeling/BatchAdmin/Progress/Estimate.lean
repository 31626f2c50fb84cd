/-
How far a running step is.

A step does not know how much work it has; what it has done is held
against its history. If earlier executions read anything, the items read
so far are compared with the mean; if not, the time spent is compared
with the mean time. While the step runs the estimate stays below the
whole, at ninety-nine hundredths at most. A step without a history has
no estimate.
-/
import BatchAdmin.Progress.History
import BatchAdmin.Decimal.Rounded
import BatchAdmin.Time.Elapsed

namespace BatchAdmin

open Quantity Text

-- ============================================================= the estimate

/-- An estimate and what it rests on. -/
inductive Estimate (α : Type) where
  /-- There is no history. -/
  | noHistory
  /-- The step has ended. -/
  | finished
  /-- From the items read. -/
  | byReads (fraction : α)
  /-- From the time spent. -/
  | byTime (fraction : α)
  /-- The history shows neither items nor time. -/
  | blank
  deriving Repr

namespace Estimate

variable {α : Type} [Quantity α]

/-- The most that a running step is estimated at. -/
def cap : α := ofCount 99 / ofCount 100

/-- Milliseconds a step has been at work. -/
def timeSpent (step : StepExecution) (now : Instant) : Nat :=
  match step.startTime with
  | some start => start.millisBetween now
  | none => 0

/-- How far a step is, by its history. -/
def of (step : StepExecution) (h : StepHistory α) (now : Instant) :
    Estimate α :=
  if h.count == 0 then .noHistory
  else if !step.status.isRunning then .finished
  else if isPositive h.meanReads then
    .byReads (lesser (ofCount step.readCount / h.meanReads) cap)
  else if isPositive h.meanDuration then
    .byTime (lesser (ofCount (timeSpent step now) / h.meanDuration) cap)
  else .blank

/-- The estimated part of the work that is done. -/
def fraction? : Estimate α → Option α
  | .finished => some (ofCount 1)
  | .byReads x | .byTime x => some x
  | .noHistory | .blank => none

end Estimate

/-- How many milliseconds the step is expected to take: the mean, once
there is one. -/
def StepHistory.expected? {α : Type} (h : StepHistory α) : Option α :=
  if h.count == 0 then none else some h.meanDuration

-- ================================================================= in words

/-- An estimate in words. -/
def Estimate.message (step : StepExecution) (h : StepHistory Float) :
    Estimate Float → String
  | .noHistory =>
      "No history for step " ++ step.name
        ++ "; progress cannot be estimated"
  | .finished => "Step has finished with status " ++ step.status.word
  | .byReads _ =>
      "Estimated from " ++ natText step.readCount
        ++ " items read against a mean of "
        ++ natText (Decimal.nearestWhole h.meanReads)
        ++ " over " ++ natText h.count ++ " executions"
  | .byTime _ =>
      "Estimated from elapsed time against a mean duration of "
        ++ natText (Decimal.nearestWhole h.meanDuration)
        ++ " ms over " ++ natText h.count ++ " executions"
  | .blank => "History has no read counts or durations to estimate from"

end BatchAdmin
