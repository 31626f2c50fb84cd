/-
Job definitions: the jobs the engine knows how to run.
-/
namespace BatchAdmin

/-- A job the engine knows how to run. -/
structure JobDefinition where
  name : String
  /-- Clients may launch it. -/
  launchable : Bool := true
  /-- Each launch gets the next run number as a parameter. -/
  incrementable : Bool := false
  /-- A stopped or failed execution may be restarted. -/
  restartable : Bool := true
  /-- It may be launched while another execution of it runs. -/
  concurrent : Bool := false
  requiredParameters : List String := []
  /-- The names of its steps, in the order in which they run. -/
  steps : List String := []
  deriving DecidableEq, Repr

end BatchAdmin
