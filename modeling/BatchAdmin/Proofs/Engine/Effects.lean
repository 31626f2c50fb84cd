/-
What a turn can do to the engine.

`Effect` lists it once, with every look-up made: nothing (the call was
refused, or only looked), a step id used up for nothing, a change to one
execution on somebody's call, a runner's move with the change that goes
with it, or a new execution. `Calls` says which change a call makes and
`Moves` which change and which next phase a runner's move makes, each
with what must hold for it; `Opens` says when a launch or a restart goes
ahead. `effect_take` is the inversion: a turn has one of these effects.
Invariants of plays are proved by going through the cases and never by
opening the operations again.

A runner's move never fails in a reachable engine, since executions and
their steps stay once they are there. That is `Known`, which Numbering
proves along every play; here it is asked for of the runner that moves.
-/
import BatchAdmin.Proofs.Engine.Changes
import BatchAdmin.Proofs.Engine.Play

namespace BatchAdmin

/-- The step that a phase is about. -/
def Phase.step? : Phase → Option Int
  | .resting step _ _ | .recording step _ | .closing step => some step
  | .starting | .stopping => none

namespace Engine

-- ================================================================ the calls

/-- The change that an act makes to an execution that it finds. -/
inductive Calls (engine : Engine) (e : Execution) : Act → Change → Prop
  /-- A stop is left to the runner. -/
  | stopDriven (hr : e.isRunning = true) (ha : e.id ∈ engine.attached) :
      Calls engine e (.stop e.id) .mark
  /-- A stop without a runner ends the execution. -/
  | stopFree (hr : e.isRunning = true) (ha : e.id ∉ engine.attached) :
      Calls engine e (.stop e.id) (.close .stopped .stopped)
  | startStep (name : String) :
      Calls engine e (.startStep e.id name)
        (.openStep (engine.lastStep + 1) name)
  | recordChunk {id : Int} {step : StepExecution} (items : Nat)
      (hs : e.step? id = some step) :
      Calls engine e (.recordChunk e.id id items) (.chunk step items)
  | finishStep {id : Int} {step : StepExecution} (status : Status)
      (hs : e.step? id = some step) :
      Calls engine e (.finishStep e.id id status) (.closeStep step status)
  | finish (status : Status) (exit : ExitStatus) :
      Calls engine e (.finish e.id status exit) (.close status exit)

-- ================================================================ the moves

/-- The change that a runner's move makes to its execution, if any, and
the runner that is left. -/
inductive Moves (engine : Engine) (now : Instant) (e : Execution)
    (r : Runner) : Option Change → Option Runner → Prop
  /-- No step is left and a stop was asked for. -/
  | endStopped (hp : r.phase = .starting) (ht : r.todo = [])
      (hs : e.status = .stopping) :
      Moves engine now e r (some (.close .stopped .stopped)) none
  /-- No step is left and no stop was asked for. -/
  | endCompleted (hp : r.phase = .starting) (ht : r.todo = [])
      (hs : e.status ≠ .stopping) :
      Moves engine now e r (some (.close .completed .completed)) none
  | openStep {name : String} {todo : List String}
      (hp : r.phase = .starting) (ht : r.todo = name :: todo) :
      Moves engine now e r
        (some (.openStep (engine.lastStep + 1) name))
        (some { r with
          todo
          phase := .resting (engine.lastStep + 1) 0
            (now.later engine.tick) })
  | seeStop {step : Int} {ticks : Nat} {wake : Instant}
      (hp : r.phase = .resting step ticks wake)
      (hs : e.status = .stopping) :
      Moves engine now e r none (some { r with phase := .stopping })
  | seeNone {step : Int} {ticks : Nat} {wake : Instant}
      (hp : r.phase = .resting step ticks wake)
      (hs : e.status ≠ .stopping) :
      Moves engine now e r none
        (some { r with phase := .recording step ticks })
  | chunk {id : Int} {step : StepExecution} {ticks : Nat}
      (hp : r.phase = .recording id ticks) (hs : e.step? id = some step)
      (ht : ticks + 1 < ticksPerStep) :
      Moves engine now e r (some (.chunk step itemsPerTick))
        (some { r with
          phase := .resting id (ticks + 1) (now.later engine.tick) })
  | lastChunk {id : Int} {step : StepExecution} {ticks : Nat}
      (hp : r.phase = .recording id ticks) (hs : e.step? id = some step)
      (ht : ¬ticks + 1 < ticksPerStep) :
      Moves engine now e r (some (.chunk step itemsPerTick))
        (some { r with phase := .closing id })
  | closeStep {id : Int} {step : StepExecution}
      (hp : r.phase = .closing id) (hs : e.step? id = some step) :
      Moves engine now e r (some (.closeStep step .completed))
        (some { r with phase := .starting })
  | halt (hp : r.phase = .stopping) :
      Moves engine now e r (some (.close .stopped .stopped)) none

variable {engine : Engine} {e : Execution} {r : Runner} {now : Instant}

/-- A stop is seen exactly if the execution is marked. -/
private theorem stopAsked_eq {id : Int}
    (he : engine.execution? id = some e) :
    engine.stopAsked id = .ok (decide (e.status = .stopping)) := by
  unfold stopAsked
  rw [he]

/-- The end of a run as a change. -/
private theorem finishRun_eq {id : Int}
    (he : engine.execution? id = some e) :
    (engine.finishRun id now).2
      = if e.status = .stopping then
          engine.revise e (.close .stopped .stopped) now
        else engine.revise e (.close .completed .completed) now := by
  unfold finishRun
  rw [stopAsked_eq he]
  by_cases hs : e.status = .stopping
  · simp only [hs, decide_true, if_true, finish_eq he]
  · simp only [hs, decide_false, if_false, finish_eq he]

/-- A runner whose execution is there, with the step it works on, makes
one of the moves. -/
theorem move_eq (now : Instant)
    (he : engine.execution? r.execution = some e)
    (hk : ∀ step, r.phase.step? = some step → (e.step? step).isSome) :
    ∃ change left, Moves engine now e r change left
      ∧ engine.move r now = (left, engine.reviseBy e now change) := by
  cases hp : r.phase with
  | starting =>
      cases ht : r.todo with
      | nil =>
          by_cases hs : e.status = .stopping
          · refine ⟨_, _, .endStopped hp ht hs, ?_⟩
            simp only [move, hp, ht, finishRun_eq he, if_pos hs, reviseBy]
          · refine ⟨_, _, .endCompleted hp ht hs, ?_⟩
            simp only [move, hp, ht, finishRun_eq he, if_neg hs, reviseBy]
      | cons name todo =>
          refine ⟨_, _, .openStep hp ht, ?_⟩
          simp only [move, hp, ht, startStep_eq he, reviseBy]
  | resting step ticks wake =>
      by_cases hs : e.status = .stopping
      · refine ⟨_, _, .seeStop hp hs, ?_⟩
        simp only [move, hp, stopAsked_eq he, hs, decide_true, reviseBy]
      · refine ⟨_, _, .seeNone hp hs, ?_⟩
        simp only [move, hp, stopAsked_eq he, hs, decide_false, reviseBy]
  | recording id ticks =>
      have hsome := hk id (by rw [hp]; rfl)
      obtain ⟨step, hs⟩ := Option.isSome_iff_exists.1 hsome
      by_cases ht : ticks + 1 < ticksPerStep
      · refine ⟨_, _, .chunk hp hs ht, ?_⟩
        simp only [move, hp, recordChunk_eq he hs, if_pos ht, reviseBy]
      · refine ⟨_, _, .lastChunk hp hs ht, ?_⟩
        simp only [move, hp, recordChunk_eq he hs, if_neg ht, reviseBy]
  | closing id =>
      have hsome := hk id (by rw [hp]; rfl)
      obtain ⟨step, hs⟩ := Option.isSome_iff_exists.1 hsome
      refine ⟨_, _, .closeStep hp hs, ?_⟩
      simp only [move, hp, finishStep_eq he hs, reviseBy]
  | stopping =>
      refine ⟨_, _, .halt hp, ?_⟩
      simp only [move, hp, finish_eq he, reviseBy]

/-- What is left of a runner is a runner of the same execution. -/
theorem Moves.execution {change : Option Change} {r' : Runner}
    (hm : Moves engine now e r change (some r')) :
    r'.execution = r.execution := by
  cases hm <;> rfl

-- ============================================================ the openings

/-- A launch or restart that goes ahead, with the engine in which the
instance is and what the new execution is made from. -/
inductive Opens (engine : Engine) :
    Act → Engine → String → Int → Dict → List String → Prop
  /-- A launch that joins the instance with its parameters. -/
  | join {job : String} {parameters : Dict} {d : JobDefinition}
      {i : JobInstance}
      (hd : engine.launchable job parameters = .ok d)
      (hi : engine.instanceFor? job (engine.effective d parameters)
        = some i)
      (hu : engine.unfinished i.id job = .ok ()) :
      Opens engine (.launch job parameters) engine job i.id
        (engine.effective d parameters) d.steps
  /-- A launch that founds an instance. -/
  | found {job : String} {parameters : Dict} {d : JobDefinition}
      (hd : engine.launchable job parameters = .ok d)
      (hi : engine.instanceFor? job (engine.effective d parameters)
        = none) :
      Opens engine (.launch job parameters)
        (engine.addInstance job (engine.effective d parameters)).2 job
        (engine.lastInstance + 1) (engine.effective d parameters) d.steps
  | restart {id i : Int} {e : Execution} {d : JobDefinition}
      (hr : engine.restartable id = .ok (e, i, d)) :
      Opens engine (.restart id) engine e.job i e.parameters d.steps

-- ============================================================= the effects

/-- A runner's execution is there, and the step that it works on. -/
def Known (engine : Engine) (r : Runner) : Prop :=
  ∃ e, engine.execution? r.execution = some e
    ∧ ∀ step, r.phase.step? = some step → (e.step? step).isSome

/-- What a turn can do to the engine. -/
inductive Effect (engine : Engine) (turn : Turn) : Engine → Prop
  /-- Refused, or nothing to do. -/
  | quiet : Effect engine turn engine
  /-- A step was to be started for an unknown execution. -/
  | wasted : Effect engine turn
      { engine with lastStep := engine.lastStep + 1 }
  /-- A call changed an execution. -/
  | called {e : Execution} {change : Change}
      (he : engine.execution? e.id = some e)
      (hc : Calls engine e turn.act change) :
      Effect engine turn (engine.revise e change turn.now)
  /-- A runner moved, and changed its execution or not. -/
  | moved {e : Execution} {r : Runner} {change : Option Change}
      {left : Option Runner}
      (ha : turn.act = .run e.id)
      (he : engine.execution? e.id = some e)
      (hr : engine.runner? e.id = some r)
      (hm : Moves engine turn.now e r change left) :
      Effect engine turn
        ((engine.reviseBy e turn.now change).keepRunner e.id left)
  /-- An execution was begun. -/
  | begun {engine₀ : Engine} {job : String} {i : Int}
      {parameters : Dict} {steps : List String}
      (ho : Opens engine turn.act engine₀ job i parameters steps) :
      Effect engine turn
        (engine₀.begin job i parameters steps turn.now).2

/-- A runner that is found is one of the runners, with the execution
asked for. -/
theorem mem_of_runner? {id : Int} (h : engine.runner? id = some r) :
    r ∈ engine.runners ∧ r.execution = id :=
  ⟨List.mem_of_find?_eq_some h, by simpa using List.find?_some h⟩

private theorem effect_launch (job : String) (parameters : Dict) :
    Effect engine ⟨.launch job parameters, now⟩
      (engine.launch job parameters now).2 := by
  unfold launch
  cases hd : engine.launchable job parameters with
  | error failure => exact .quiet
  | ok d =>
      dsimp only
      cases hi : engine.instanceFor? job
          (engine.effective d parameters) with
      | none => exact .begun (.found hd hi)
      | some i =>
          dsimp only
          cases hu : engine.unfinished i.id job with
          | error failure => exact .quiet
          | ok _ => exact .begun (.join hd hi hu)

private theorem effect_stop (id : Int) :
    Effect engine ⟨.stop id, now⟩ (engine.stop id now).2 := by
  cases he : engine.execution? id with
  | none =>
      unfold stop
      rw [he]
      exact .quiet
  | some e =>
      have hid := (mem_of_execution? he).2
      subst hid
      cases hr : e.isRunning with
      | false =>
          rw [stop_eq_self he hr]
          exact .quiet
      | true =>
          by_cases ha : e.id ∈ engine.attached
          · rw [stop_eq_mark he hr ha]
            exact .called he (.stopDriven hr ha)
          · rw [stop_eq_close he hr ha]
            exact .called he (.stopFree hr ha)

private theorem effect_startStep (id : Int) (name : String) :
    Effect engine ⟨.startStep id name, now⟩
      (engine.startStep id name now).2 := by
  cases he : engine.execution? id with
  | none =>
      rw [startStep_none he]
      exact .wasted
  | some e =>
      have hid := (mem_of_execution? he).2
      subst hid
      rw [startStep_eq he]
      exact .called he (.startStep name)

private theorem effect_recordChunk (id step : Int) (items : Nat) :
    Effect engine ⟨.recordChunk id step items, now⟩
      (engine.recordChunk id step items now).2 := by
  rcases reported_cases engine id step with
    ⟨failure, hf⟩ | ⟨e, s, he, hs, -⟩
  · unfold recordChunk
    rw [hf]
    exact .quiet
  · have hid := (mem_of_execution? he).2
    subst hid
    rw [recordChunk_eq he hs]
    exact .called he (.recordChunk items hs)

private theorem effect_finishStep (id step : Int) (status : Status) :
    Effect engine ⟨.finishStep id step status, now⟩
      (engine.finishStep id step status now).2 := by
  rcases reported_cases engine id step with
    ⟨failure, hf⟩ | ⟨e, s, he, hs, -⟩
  · unfold finishStep
    rw [hf]
    exact .quiet
  · have hid := (mem_of_execution? he).2
    subst hid
    rw [finishStep_eq he hs]
    exact .called he (.finishStep status hs)

private theorem effect_finish (id : Int) (status : Status)
    (exit : ExitStatus) :
    Effect engine ⟨.finish id status exit, now⟩
      (engine.finish id status exit now).2 := by
  cases he : engine.execution? id with
  | none =>
      unfold finish
      rw [he]
      exact .quiet
  | some e =>
      have hid := (mem_of_execution? he).2
      subst hid
      rw [finish_eq he]
      exact .called he (.finish status exit)

private theorem effect_restart (id : Int) :
    Effect engine ⟨.restart id, now⟩ (engine.restart id now).2 := by
  unfold restart
  cases hr : engine.restartable id with
  | error failure => exact .quiet
  | ok found =>
      obtain ⟨e, i, d⟩ := found
      exact .begun (.restart hr)

/-- A runner's turn is one of the moves. -/
theorem drive_eq {id : Int} (now : Instant)
    (hr : engine.runner? id = some r) (hk : engine.Known r) :
    ∃ e change left, engine.execution? id = some e
      ∧ Moves engine now e r change left
      ∧ engine.drive id now
          = (engine.reviseBy e now change).keepRunner id left := by
  obtain ⟨-, hid⟩ := mem_of_runner? hr
  obtain ⟨e, he, hsteps⟩ := hk
  obtain ⟨change, left, hm, heq⟩ := move_eq now he hsteps
  refine ⟨e, change, left, hid ▸ he, hm, ?_⟩
  unfold drive
  rw [hr]
  simp only [heq]

private theorem effect_run (hk : ∀ r ∈ engine.runners, engine.Known r)
    (id : Int) :
    Effect engine ⟨.run id, now⟩ (engine.drive id now) := by
  cases hr : engine.runner? id with
  | none =>
      unfold drive
      rw [hr]
      exact .quiet
  | some r =>
      obtain ⟨e, change, left, he, hm, heq⟩ :=
        drive_eq now hr (hk r (mem_of_runner? hr).1)
      have hid := (mem_of_execution? he).2
      subst hid
      rw [heq]
      exact .moved rfl he hr hm

/-- A turn does nothing, or has one of the effects. -/
theorem effect_take (hk : ∀ r ∈ engine.runners, engine.Known r)
    (turn : Turn) : Effect engine turn (engine.take turn) := by
  obtain ⟨act, now⟩ := turn
  cases act with
  | launch job parameters => exact effect_launch job parameters
  | stop id => exact effect_stop id
  | restart id => exact effect_restart id
  | startStep id name => exact effect_startStep id name
  | recordChunk id step items => exact effect_recordChunk id step items
  | finishStep id step status => exact effect_finishStep id step status
  | finish id status exit => exact effect_finish id status exit
  | run id => exact effect_run hk id

end Engine

end BatchAdmin
