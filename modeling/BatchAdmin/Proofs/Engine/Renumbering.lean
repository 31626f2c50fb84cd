/-
Step ids do not matter: an engine in which a step id was skipped goes on as
the one in which it was not, with every later step numbered one higher.

`shift last` leaves the ids up to `last` and moves the others up by one.
An engine, a turn and a reply are renumbered by it wherever they speak of a
step, and every operation commutes with that as long as all ids up to `last`
have been handed out. Nothing but a look-up ever reads a step id, so it is
enough that the shift keeps ids apart.
-/
import BatchAdmin.Proofs.Engine.Effects

namespace BatchAdmin

-- ============================================================== the renaming

/-- The ids above the last one move up by one. -/
def shift (last id : Int) : Int := if id ≤ last then id else id + 1

/-- Ids that were handed out stay. -/
theorem shift_of_le {last id : Int} (h : id ≤ last) : shift last id = id :=
  if_pos h

/-- The next id moves up with its counter. -/
theorem shift_next {last counter : Int} (h : last ≤ counter) :
    shift last (counter + 1) = counter + 1 + 1 :=
  if_neg (by omega)

/-- Ids stay apart. -/
theorem shift_inj {last a b : Int} :
    shift last a = shift last b ↔ a = b := by
  unfold shift
  constructor
  · intro h
    split at h
    · split at h <;> omega
    · split at h <;> omega
  · rintro rfl
    rfl

variable (last : Int)

/-- A step under its new id. -/
def StepExecution.renumber (s : StepExecution) : StepExecution :=
  { s with id := shift last s.id }

/-- An execution whose steps have new ids. -/
def Execution.renumber (e : Execution) : Execution :=
  { e with steps := e.steps.map (·.renumber last) }

/-- What is next, at the step under its new id. -/
def Phase.renumber : Phase → Phase
  | .starting => .starting
  | .resting step ticks wake => .resting (shift last step) ticks wake
  | .recording step ticks => .recording (shift last step) ticks
  | .closing step => .closing (shift last step)
  | .stopping => .stopping

/-- A runner that works on its step under the new id. -/
def Runner.renumber (r : Runner) : Runner :=
  { r with phase := r.phase.renumber last }

/-- A failure told of the step under its new id. -/
def Failure.renumber : Failure → Failure
  | .noSuchStep execution step => .noSuchStep execution (shift last step)
  | failure => failure

/-- An answer told of steps under their new ids. -/
def Answer.renumber {α : Type} (f : α → α) : Answer α → Answer α
  | .error failure => .error (failure.renumber last)
  | .ok a => .ok (f a)

namespace Engine

/-- The engine in which one more id was used up after the last one. -/
def renumber (engine : Engine) : Engine :=
  { engine with
    executions := engine.executions.map (·.renumber last)
    runners := engine.runners.map (·.renumber last)
    lastStep := engine.lastStep + 1 }

/-- An act on the step under its new id. -/
def Act.renumber : Act → Act
  | .recordChunk execution step items =>
      .recordChunk execution (shift last step) items
  | .finishStep execution step status =>
      .finishStep execution (shift last step) status
  | act => act

/-- A turn that is about the step under its new id. -/
def Turn.renumber (turn : Turn) : Turn :=
  { turn with act := turn.act.renumber last }

end Engine

-- =============================================================== the records

namespace Execution

variable {last} (e : Execution)

@[simp] theorem renumber_job : (e.renumber last).job = e.job := rfl

@[simp] theorem renumber_instanceId :
    (e.renumber last).instanceId = e.instanceId := rfl

@[simp] theorem renumber_status :
    (e.renumber last).status = e.status := rfl

@[simp] theorem renumber_isRunning :
    (e.renumber last).isRunning = e.isRunning := rfl

/-- A step is found under its new id. -/
theorem step?_renumber (id : Int) :
    (e.renumber last).step? (shift last id)
      = (e.step? id).map (·.renumber last) := by
  unfold step? renumber
  rw [List.find?_map]
  congr 2
  funext s
  show decide (shift last s.id = shift last id) = decide (s.id = id)
  simp only [shift_inj]

/-- With no id above the last one nothing is renumbered. -/
theorem renumber_of_le (h : ∀ s ∈ e.steps, s.id ≤ last) :
    e.renumber last = e := by
  have hsteps : e.steps.map (·.renumber last) = e.steps := by
    refine (List.map_congr_left fun s hs => ?_).trans (List.map_id _)
    exact congrArg (fun id => { s with id }) (shift_of_le (h s hs))
  exact congrArg (fun steps => { e with steps }) hsteps

/-- A step is put back under its new id. -/
theorem putStep_renumber (last : Int) (s : StepExecution) :
    (e.renumber last).putStep (s.renumber last)
      = (e.putStep s).renumber last := by
  unfold putStep renumber
  simp only [List.map_map, Execution.mk.injEq, true_and]
  refine List.map_congr_left fun x _ => ?_
  show (if shift last x.id = shift last s.id then _ else _) = _
  simp only [shift_inj, Function.comp_apply]
  split <;> rfl

end Execution

/-- Nor is a runner renumbered that works on such a step. -/
theorem Runner.renumber_of_le {last : Int} (r : Runner)
    (h : ∀ step, r.phase.step? = some step → step ≤ last) :
    r.renumber last = r := by
  obtain ⟨id, todo, phase⟩ := r
  cases phase with
  | resting step _ _ | recording step _ | closing step =>
      simp only [renumber, Phase.renumber, shift_of_le (h step rfl)]
  | starting | stopping => rfl

namespace Engine

variable {last} (engine : Engine) (now : Instant)

/-- An execution is found as before, its steps under their new ids. -/
theorem execution?_renumber (last id : Int) :
    (engine.renumber last).execution? id
      = (engine.execution? id).map (·.renumber last) :=
  List.find?_map

/-- An execution is put back with its steps under their new ids. -/
theorem put_renumber (e : Execution) :
    (engine.renumber last).put (e.renumber last)
      = (engine.put e).renumber last := by
  unfold put renumber
  simp only [List.map_map, Engine.mk.injEq, true_and, and_true]
  refine List.map_congr_left fun x _ => ?_
  show (if x.id = e.id then _ else _) = _
  simp only [Function.comp_apply]
  split <;> rfl

@[simp] theorem definition?_renumber (job : String) :
    (engine.renumber last).definition? job = engine.definition? job := rfl

@[simp] theorem instanceFor?_renumber (job : String) (parameters : Dict) :
    (engine.renumber last).instanceFor? job parameters
      = engine.instanceFor? job parameters := rfl

/-- The attempts of an instance are the same, their steps under their new
ids. -/
theorem attemptsOf_renumber (id : Int) :
    (engine.renumber last).attemptsOf id
      = (engine.attemptsOf id).map (·.renumber last) :=
  List.filter_map

/-- So are the executions of a job. -/
theorem executionsOf_renumber (job : String) :
    (engine.renumber last).executionsOf job
      = (engine.executionsOf job).map (·.renumber last) :=
  List.filter_map

/-- And the runner of an execution. -/
theorem runner?_renumber (id : Int) :
    (engine.renumber last).runner? id
      = (engine.runner? id).map (·.renumber last) :=
  List.find?_map

-- =============================================================== the changes

/-- A change that is about steps under their new ids. -/
def Change.renumber (last : Int) : Change → Change
  | .openStep id name => .openStep (shift last id) name
  | .chunk step items => .chunk (step.renumber last) items
  | .closeStep step status => .closeStep (step.renumber last) status
  | .mark => .mark
  | .close status exit => .close status exit

/-- A change does the same to an execution whose steps have new ids. -/
theorem Change.on_renumber (last : Int) (e : Execution)
    (change : Change) :
    (change.renumber last).on (e.renumber last) now
      = (change.on e now).renumber last := by
  cases change with
  | mark => rfl
  | openStep id name =>
      simp [Change.renumber, Change.on, Execution.renumber,
        StepExecution.renumber]
  | chunk step items =>
      have hput := e.putStep_renumber last (withChunk step items now)
      exact congrArg (fun x : Execution =>
        { x with lastUpdated := some now }) hput
  | closeStep step status =>
      exact e.putStep_renumber last (ended step status now)
  | close status exit =>
      simp only [Change.renumber, Change.on, closed, Execution.renumber,
        List.map_map, Execution.mk.injEq, true_and]
      refine List.map_congr_left fun s _ => ?_
      show (if s.status.isRunning then _ else _) = _
      simp only [Function.comp_apply]
      split <;> rfl

/-- A changed execution is put back with its steps under their new ids. -/
theorem put_on_renumber (last : Int) (e : Execution) (change : Change) :
    (engine.renumber last).put
        ((change.renumber last).on (e.renumber last) now)
      = (engine.put (change.on e now)).renumber last := by
  rw [Change.on_renumber, put_renumber]

-- =========================================================== working through

/-- An answer, and the engine it leaves, with steps under their new ids. -/
def renumbered {α : Type} (last : Int) (f : α → α)
    (answered : Answer α × Engine) : Answer α × Engine :=
  (answered.1.renumber last f, answered.2.renumber last)

/-- A new step gets the next id, which is one higher. -/
theorem startStep_renumber (h : last ≤ engine.lastStep) (id : Int)
    (name : String) :
    (engine.renumber last).startStep id name now
      = renumbered last (shift last) (engine.startStep id name now) := by
  have hfound := engine.execution?_renumber last id
  cases he : engine.execution? id with
  | none =>
      rw [he] at hfound
      rw [startStep_none hfound, startStep_none he]
      rfl
  | some e =>
      rw [he] at hfound
      rw [startStep_eq hfound, startStep_eq he]
      have hput := engine.put_on_renumber now last e
        (.openStep (engine.lastStep + 1) name)
      simp only [Change.renumber, shift_next h] at hput
      refine Prod.ext (congrArg Except.ok (shift_next h).symm) ?_
      exact congrArg (fun next : Engine =>
        { next with lastStep := engine.lastStep + 1 + 1 }) hput

/-- A report finds the step under its new id. -/
theorem reported_renumber (id step : Int) :
    (engine.renumber last).reported id (shift last step)
      = (engine.reported id step).renumber last
          fun found => (found.1.renumber last, found.2.renumber last) := by
  unfold reported
  rw [execution?_renumber]
  cases engine.execution? id with
  | none => rfl
  | some e =>
      simp only [Option.map_some, e.step?_renumber]
      cases e.step? step with
      | none => rfl
      | some s => rfl

theorem recordChunk_renumber (id step : Int) (items : Nat) :
    (engine.renumber last).recordChunk id (shift last step) items now
      = renumbered last (fun told => told)
          (engine.recordChunk id step items now) := by
  unfold recordChunk
  rw [reported_renumber]
  cases engine.reported id step with
  | error failure => rfl
  | ok found =>
      obtain ⟨e, s⟩ := found
      exact Prod.ext rfl
        (engine.put_on_renumber now last e (.chunk s items))

theorem finishStep_renumber (id step : Int) (status : Status) :
    (engine.renumber last).finishStep id (shift last step) status now
      = renumbered last (fun told => told)
          (engine.finishStep id step status now) := by
  unfold finishStep
  rw [reported_renumber]
  cases engine.reported id step with
  | error failure => rfl
  | ok found =>
      obtain ⟨e, s⟩ := found
      exact Prod.ext rfl
        (engine.put_on_renumber now last e (.closeStep s status))

theorem finish_renumber (id : Int) (status : Status) (exit : ExitStatus) :
    (engine.renumber last).finish id status exit now
      = renumbered last (·.renumber last)
          (engine.finish id status exit now) := by
  unfold finish
  rw [execution?_renumber]
  cases engine.execution? id with
  | none => rfl
  | some e =>
      have hput := engine.put_on_renumber now last e (.close status exit)
      have hon := Change.on_renumber now last e (.close status exit)
      refine Prod.ext (congrArg Except.ok hon) ?_
      exact congrArg (fun next : Engine =>
        { next with attached := engine.attached.filter (· ≠ id) }) hput

-- =============================================================== the control

/-- What is asked of executions without their steps is answered alike. -/
private theorem any_renumber (es : List Execution) {p : Execution → Bool}
    (hp : ∀ e : Execution, p (e.renumber last) = p e) :
    (es.map (·.renumber last)).any p = es.any p := by
  rw [List.any_map]
  exact congrArg es.any (funext hp)

/-- Whether a job can be launched does not depend on the ids of steps. -/
theorem launchable_renumber (job : String) (parameters : Dict) :
    (engine.renumber last).launchable job parameters
      = (engine.launchable job parameters).renumber last
          fun definition => definition := by
  unfold launchable
  rw [executionsOf_renumber, any_renumber _ fun _ => rfl,
    definition?_renumber]
  cases engine.definition? job with
  | none => rfl
  | some d =>
      dsimp only
      split
      · rfl
      · split
        · rfl
        · split <;> rfl

/-- Nor what it is launched with. -/
theorem effective_renumber (d : JobDefinition) (parameters : Dict) :
    (engine.renumber last).effective d parameters
      = engine.effective d parameters := by
  unfold effective nextRunNumber
  rw [executionsOf_renumber, List.filterMap_map]
  rfl

/-- Nor whether an instance can be run again. -/
theorem unfinished_renumber (id : Int) (job : String) :
    (engine.renumber last).unfinished id job
      = (engine.unfinished id job).renumber last fun told => told := by
  unfold unfinished
  dsimp only
  rw [attemptsOf_renumber, any_renumber _ fun _ => rfl,
    any_renumber _ fun _ => rfl]
  split
  · rfl
  · split <;> rfl

/-- Nor whether an execution can. -/
theorem restartable_renumber (id : Int) :
    (engine.renumber last).restartable id
      = (engine.restartable id).renumber last
          fun found => (found.1.renumber last, found.2) := by
  unfold restartable
  rw [execution?_renumber]
  cases engine.execution? id with
  | none => rfl
  | some e =>
      simp only [Option.map_some, Execution.renumber_job,
        Execution.renumber_instanceId, Execution.renumber_status,
        Execution.renumber_isRunning, definition?_renumber,
        unfinished_renumber]
      cases e.instanceId with
      | none => rfl
      | some i =>
          cases engine.definition? e.job with
          | none => rfl
          | some d =>
              dsimp only
              split
              · rfl
              · split
                · rfl
                · split
                  · rfl
                  · cases engine.unfinished i e.job <;> rfl

/-- An instance is founded as before. -/
theorem addInstance_renumber (job : String) (parameters : Dict) :
    (engine.renumber last).addInstance job parameters
      = ((engine.addInstance job parameters).1,
          (engine.addInstance job parameters).2.renumber last) := rfl

/-- An execution is begun as before; it has no steps yet. -/
theorem begin_renumber (job : String) (i : Int) (parameters : Dict)
    (steps : List String) :
    (engine.renumber last).begin job i parameters steps now
      = ((engine.begin job i parameters steps now).1.renumber last,
          (engine.begin job i parameters steps now).2.renumber last) := by
  unfold begin
  dsimp only
  show (if engine.pace.isSome = true then _ else _) = _
  split
  · refine Prod.ext rfl ?_
    simp only [renumber, List.map_append]
    rfl
  · refine Prod.ext rfl ?_
    simp only [renumber, List.map_append]
    rfl

theorem launch_renumber (job : String) (parameters : Dict) :
    (engine.renumber last).launch job parameters now
      = renumbered last (·.renumber last)
          (engine.launch job parameters now) := by
  unfold launch
  rw [launchable_renumber]
  cases engine.launchable job parameters with
  | error failure => rfl
  | ok d =>
      simp only [Answer.renumber, effective_renumber, instanceFor?_renumber,
        addInstance_renumber, unfinished_renumber, begin_renumber]
      cases engine.instanceFor? job (engine.effective d parameters) with
      | none => rfl
      | some i =>
          dsimp only
          cases engine.unfinished i.id job <;> rfl

theorem restart_renumber (id : Int) :
    (engine.renumber last).restart id now
      = renumbered last (·.renumber last) (engine.restart id now) := by
  unfold restart
  rw [restartable_renumber]
  cases engine.restartable id with
  | error failure => rfl
  | ok found => simp only [Answer.renumber, begin_renumber]; rfl

theorem stop_renumber (id : Int) :
    (engine.renumber last).stop id now
      = renumbered last (·.renumber last) (engine.stop id now) := by
  unfold stop
  rw [execution?_renumber]
  cases engine.execution? id with
  | none => rfl
  | some e =>
      have hput := engine.put_on_renumber now last e .mark
      have hon := Change.on_renumber now last e .mark
      simp only [Change.renumber, Change.on] at hput hon
      show (if (!e.isRunning) = true then _
        else if engine.attached.contains id = true then _ else _) = _
      dsimp only
      rw [hput, hon, finish_renumber]
      split
      · rfl
      · split <;> rfl

-- =============================================================== the runners

/-- Whether a stop was asked for does not depend on the ids of steps. -/
theorem stopAsked_renumber (id : Int) :
    (engine.renumber last).stopAsked id
      = (engine.stopAsked id).renumber last fun told => told := by
  unfold stopAsked
  rw [execution?_renumber]
  cases engine.execution? id with
  | none => rfl
  | some e => rfl

theorem finishRun_renumber (id : Int) :
    (engine.renumber last).finishRun id now
      = renumbered last (·.renumber last) (engine.finishRun id now) := by
  unfold finishRun
  rw [stopAsked_renumber]
  cases engine.stopAsked id with
  | error failure => rfl
  | ok asked => cases asked <;> exact finish_renumber ..

/-- A runner that works on its step under the new id makes the same
move. -/
theorem move_renumber (h : last ≤ engine.lastStep) (r : Runner) :
    (engine.renumber last).move (r.renumber last) now
      = ((engine.move r now).1.map (·.renumber last),
          (engine.move r now).2.renumber last) := by
  obtain ⟨id, todo, phase⟩ := r
  cases phase with
  | starting =>
      cases todo with
      | nil =>
          show (none, _) = (none, _)
          rw [finishRun_renumber]
          rfl
      | cons name todo =>
          simp only [move, Runner.renumber, Phase.renumber,
            startStep_renumber engine now h]
          obtain ⟨answer, next⟩ := engine.startStep id name now
          cases answer <;> rfl
  | resting step ticks wake =>
      simp only [move, Runner.renumber, Phase.renumber, stopAsked_renumber]
      cases engine.stopAsked id with
      | error failure => rfl
      | ok asked => cases asked <;> rfl
  | recording step ticks =>
      simp only [move, Runner.renumber, Phase.renumber,
        recordChunk_renumber]
      obtain ⟨answer, next⟩ := engine.recordChunk id step itemsPerTick now
      cases answer with
      | error failure => rfl
      | ok told =>
          simp only [renumbered, Answer.renumber]
          split <;> rfl
  | closing step =>
      simp only [move, Runner.renumber, Phase.renumber,
        finishStep_renumber]
      obtain ⟨answer, next⟩ := engine.finishStep id step .completed now
      cases answer <;> rfl
  | stopping =>
      simp only [move, Runner.renumber, Phase.renumber, finish_renumber]
      rfl

/-- What is left of a runner takes its place. -/
theorem keepRunner_renumber (id : Int) (left : Option Runner) :
    (engine.renumber last).keepRunner id (left.map (·.renumber last))
      = (engine.keepRunner id left).renumber last := by
  have hone : ∀ r : Runner,
      (if (r.renumber last).execution = id then
          (left.map (·.renumber last)).toList
        else [r.renumber last])
        = (if r.execution = id then left.toList else [r]).map
            (·.renumber last) := by
    intro r
    show (if r.execution = id then _ else _) = _
    split
    · cases left <;> rfl
    · rfl
  simp only [keepRunner, renumber, List.flatMap_map, List.map_flatMap, hone]

theorem drive_renumber (h : last ≤ engine.lastStep) (id : Int) :
    (engine.renumber last).drive id now
      = (engine.drive id now).renumber last := by
  unfold drive
  rw [runner?_renumber]
  cases engine.runner? id with
  | none => rfl
  | some r =>
      simp only [Option.map_some, move_renumber engine now h,
        keepRunner_renumber]

end Engine

end BatchAdmin
