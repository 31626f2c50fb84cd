/-
The changes an execution's record can see, and the calls as changes.

Whoever acts on an execution that is there, the record changes in one of
five ways: it is marked for its runner to stop, a step is added to it, a
chunk is counted for one of its steps, a step is ended, or the execution
itself is. `revise` is the engine with one such change made, and the
equations below say of each call which change it makes. Nothing else of
the engine moves but the step counter (a new step) and the list of
executions a runner answers for (an execution that is ended leaves it).
-/
import BatchAdmin.Engine.Control
import BatchAdmin.Proofs.Engine.Records

namespace BatchAdmin.Engine

-- ============================================================= the changes

/-- What can happen to the record of an execution. -/
inductive Change where
  /-- Its runner is asked to stop. -/
  | mark
  /-- A step is started under an id. -/
  | openStep (id : Int) (name : String)
  /-- A chunk is counted for a step. -/
  | chunk (step : StepExecution) (items : Nat)
  /-- A step is ended. -/
  | closeStep (step : StepExecution) (status : Status)
  /-- The execution is ended. -/
  | close (status : Status) (exit : ExitStatus)

namespace Change

/-- The record after a change. -/
def on (e : Execution) (now : Instant) : Change → Execution
  | .mark => { e with status := .stopping, lastUpdated := some now }
  | .openStep id name =>
      let step : StepExecution :=
        { id, name, executionId := e.id, status := .started
          startTime := some now, lastUpdated := some now }
      { e with steps := e.steps ++ [step], lastUpdated := some now }
  | .chunk step items =>
      { e.putStep (withChunk step items now) with lastUpdated := some now }
  | .closeStep step status => e.putStep (ended step status now)
  | .close status exit => closed e status exit now

/-- The status of an execution after a change. -/
def status (old : Status) : Change → Status
  | .mark => .stopping
  | .close status _ => status
  | _ => old

/-- The executions that a runner answers for after a change. -/
def attached (id : Int) (all : List Int) : Change → List Int
  | .close _ _ => all.filter (· ≠ id)
  | _ => all

/-- The last step id after a change. -/
def lastStep (last : Int) : Change → Int
  | .openStep id _ => id
  | _ => last

variable (change : Change) (e : Execution) (now : Instant)

@[simp] theorem on_id : (change.on e now).id = e.id := by
  cases change <;> rfl

@[simp] theorem on_job : (change.on e now).job = e.job := by
  cases change <;> rfl

@[simp] theorem on_instanceId :
    (change.on e now).instanceId = e.instanceId := by
  cases change <;> rfl

@[simp] theorem on_parameters :
    (change.on e now).parameters = e.parameters := by
  cases change <;> rfl

@[simp] theorem on_status :
    (change.on e now).status = change.status e.status := by
  cases change <;> rfl

end Change

/-- The engine with a change made to one of its executions. -/
def revise (engine : Engine) (e : Execution) (change : Change)
    (now : Instant) : Engine :=
  { engine.put (change.on e now) with
    attached := change.attached e.id engine.attached
    lastStep := change.lastStep engine.lastStep }

/-- The engine with a change made, if there is one to make. -/
def reviseBy (engine : Engine) (e : Execution) (now : Instant) :
    Option Change → Engine
  | none => engine
  | some change => engine.revise e change now

variable {engine : Engine} {e : Execution} {change : Change}
  {now : Instant}

/-- A change leaves the runners as they are. -/
@[simp] theorem runners_reviseBy (change : Option Change) :
    (engine.reviseBy e now change).runners = engine.runners := by
  cases change <;> rfl

/-- A change leaves the ids as they are. -/
@[simp] theorem ids_revise :
    (engine.revise e change now).executions.map (·.id)
      = engine.executions.map (·.id) :=
  ids_put _

/-- The executions after a change: the others, and the changed one. -/
theorem mem_revise (he : engine.execution? e.id = some e)
    {x : Execution} :
    x ∈ (engine.revise e change now).executions
      ↔ (x ∈ engine.executions ∧ x.id ≠ e.id) ∨ x = change.on e now := by
  show x ∈ (engine.put (change.on e now)).executions ↔ _
  rw [mem_put, Change.on_id]
  have hthere : ∃ y ∈ engine.executions, y.id = e.id :=
    ⟨e, (mem_of_execution? he).1, rfl⟩
  simp only [hthere, and_true]

/-- A change leaves the other executions. -/
theorem mem_reviseBy_of_ne (he : engine.execution? e.id = some e)
    {x : Execution} (hx : x ∈ engine.executions) (hne : x.id ≠ e.id)
    (change : Option Change) :
    x ∈ (engine.reviseBy e now change).executions := by
  cases change with
  | none => exact hx
  | some change => exact (mem_revise he).2 (.inl ⟨hx, hne⟩)

/-- What is found under the id of the changed execution. -/
theorem execution?_revise (he : engine.execution? e.id = some e) :
    (engine.revise e change now).execution? e.id
      = some (change.on e now) := by
  have hthere : engine.execution? (change.on e now).id = some e := by
    rw [Change.on_id]
    exact he
  have hput := execution?_put_self hthere
  rw [Change.on_id] at hput
  exact hput

-- ==================================================== the calls as changes

variable {id : Int}

/-- The id in a call is the id of the execution it finds. -/
private theorem id_of (he : engine.execution? id = some e) : e.id = id :=
  (mem_of_execution? he).2

theorem startStep_eq (he : engine.execution? id = some e)
    (name : String) :
    engine.startStep id name now
      = (.ok (engine.lastStep + 1),
          engine.revise e (.openStep (engine.lastStep + 1) name) now) := by
  have hid := id_of he
  subst hid
  have hsame : ({ engine with lastStep := engine.lastStep + 1 }
      : Engine).execution? e.id = some e := he
  unfold startStep
  simp only [hsame]
  rfl

theorem startStep_none (he : engine.execution? id = none)
    (name : String) :
    engine.startStep id name now
      = (.error (.noSuchExecution id),
          { engine with lastStep := engine.lastStep + 1 }) := by
  have hsame : ({ engine with lastStep := engine.lastStep + 1 }
      : Engine).execution? id = none := he
  unfold startStep
  simp only [hsame]

/-- A report finds the execution and its step, or changes nothing. -/
theorem reported_cases (engine : Engine) (execution step : Int) :
    (∃ failure, engine.reported execution step = .error failure)
      ∨ ∃ e s, engine.execution? execution = some e
        ∧ e.step? step = some s
        ∧ engine.reported execution step = .ok (e, s) := by
  unfold reported
  cases he : engine.execution? execution with
  | none => exact .inl ⟨_, rfl⟩
  | some e =>
      cases hs : e.step? step with
      | none => exact .inl ⟨.noSuchStep execution step, by simp only [hs]⟩
      | some s => exact .inr ⟨e, s, rfl, hs, by simp only [hs]⟩

theorem reported_eq {s : StepExecution} {step : Int}
    (he : engine.execution? id = some e) (hs : e.step? step = some s) :
    engine.reported id step = .ok (e, s) := by
  unfold reported
  rw [he]
  simp only [hs]

theorem recordChunk_eq {s : StepExecution} {step : Int}
    (he : engine.execution? id = some e) (hs : e.step? step = some s)
    (items : Nat) :
    engine.recordChunk id step items now
      = (.ok (), engine.revise e (.chunk s items) now) := by
  unfold recordChunk
  rw [reported_eq he hs]
  rfl

theorem finishStep_eq {s : StepExecution} {step : Int}
    (he : engine.execution? id = some e) (hs : e.step? step = some s)
    (status : Status) :
    engine.finishStep id step status now
      = (.ok (), engine.revise e (.closeStep s status) now) := by
  unfold finishStep
  rw [reported_eq he hs]
  rfl

theorem finish_eq (he : engine.execution? id = some e) (status : Status)
    (exit : ExitStatus) :
    engine.finish id status exit now
      = (.ok (closed e status exit now),
          engine.revise e (.close status exit) now) := by
  have hid := id_of he
  subst hid
  unfold finish
  rw [he]
  rfl

/-- A running execution with a runner is marked. -/
theorem stop_eq_mark (he : engine.execution? id = some e)
    (hr : e.isRunning = true) (ha : id ∈ engine.attached) :
    (engine.stop id now).2 = engine.revise e .mark now := by
  have hid := id_of he
  subst hid
  unfold stop
  rw [he]
  simp only [hr, Bool.not_true, Bool.false_eq_true, if_false,
    List.contains_iff_mem, ha, if_true]
  rfl

/-- A running execution without a runner is ended. -/
theorem stop_eq_close (he : engine.execution? id = some e)
    (hr : e.isRunning = true) (ha : id ∉ engine.attached) :
    (engine.stop id now).2
      = engine.revise e (.close .stopped .stopped) now := by
  have hid := id_of he
  subst hid
  unfold stop
  rw [he]
  simp only [hr, Bool.not_true, Bool.false_eq_true, if_false,
    List.contains_iff_mem, ha]
  -- the record is marked first, and the marked one is ended
  have hmarked : (engine.put (Change.mark.on e now)).execution? e.id
      = some (Change.mark.on e now) := execution?_put_self he
  refine (congrArg Prod.snd (finish_eq hmarked .stopped .stopped)).trans ?_
  unfold revise
  rw [put_put (by simp)]
  rfl

/-- An execution that has ended is left as it is. -/
theorem stop_eq_self (he : engine.execution? id = some e)
    (hr : e.isRunning = false) : (engine.stop id now).2 = engine := by
  unfold stop
  rw [he]
  simp [hr]

end BatchAdmin.Engine
