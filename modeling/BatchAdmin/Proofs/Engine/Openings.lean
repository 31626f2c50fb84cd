/-
What a launch or a restart answers, and the engine that it leaves.

Both end in one of two ways (`Ends`). Either one of the checks fails; then
the answer is a failure and the engine is as it was, its counters included.
Or an execution is begun; then the answer is the new record, and all that
has happened to the engine is that the record stands behind the others, with
a runner for it where the engine has runners (`Added`). A launch may have
founded an instance for it before (`Founded`) or have found one that is there
(`Joined`).
-/
import BatchAdmin.Proofs.Engine.Succession

namespace BatchAdmin.Engine

variable {engine : Engine} {act : Act} {now : Instant} {e : Execution}
  {job : String} {parameters : Dict} {i : Int} {steps : List String}

-- ================================================================== the ends

/-- How a launch or a restart ends: with its answer and the engine after
it. -/
inductive Ends (engine : Engine) (act : Act) (now : Instant) :
    Answer Execution × Engine → Prop
  | refused (failure : Failure) :
      Ends engine act now (.error failure, engine)
  | begun {engine₀ : Engine} {job : String} {i : Int} {parameters : Dict}
      {steps : List String}
      (ho : Opens engine act engine₀ job i parameters steps) :
      Ends engine act now
        (.ok (newRecord (engine.lastExecution + 1) job i parameters now),
          (engine₀.begin job i parameters steps now).2)

/-- The answer of what goes ahead is the record that it adds. -/
theorem begin_fst (engine : Engine) :
    (engine.begin job i parameters steps now).1
      = newRecord (engine.lastExecution + 1) job i parameters now := by
  unfold begin
  dsimp only
  split <;> rfl

/-- An execution that is begun is the answer. -/
private theorem Opens.ends {engine₀ : Engine}
    (ho : Opens engine act engine₀ job i parameters steps) :
    Ends engine act now
      (.ok (engine₀.begin job i parameters steps now).1,
        (engine₀.begin job i parameters steps now).2) := by
  rw [begin_fst, ho.same.2.1]
  exact .begun ho

theorem launch_ends (engine : Engine) (job : String) (parameters : Dict)
    (now : Instant) :
    Ends engine (.launch job parameters) now
      (engine.launch job parameters now) := by
  unfold launch
  cases hd : engine.launchable job parameters with
  | error failure => exact .refused failure
  | ok d =>
      dsimp only
      cases hi : engine.instanceFor? job (engine.effective d parameters) with
      | none => exact (Opens.found hd hi).ends
      | some i =>
          dsimp only
          cases hu : engine.unfinished i.id job with
          | error failure => exact .refused failure
          | ok _ => exact (Opens.join hd hi hu).ends

theorem restart_ends (engine : Engine) (id : Int) (now : Instant) :
    Ends engine (.restart id) now (engine.restart id now) := by
  unfold restart
  cases hr : engine.restartable id with
  | error failure => exact .refused failure
  | ok found =>
      obtain ⟨e, i, d⟩ := found
      exact (Opens.restart hr).ends

/-- What is refused leaves the engine as it was. -/
theorem Ends.of_error {r : Answer Execution × Engine} {failure : Failure}
    (h : Ends engine act now r) (hr : r.1 = .error failure) :
    r.2 = engine := by
  cases h with
  | refused _ => rfl
  | begun _ => cases hr

/-- What goes ahead has opened an execution and begun it. -/
theorem Ends.of_ok {r : Answer Execution × Engine}
    (h : Ends engine act now r) (hr : r.1 = .ok e) :
    ∃ engine₀ job i parameters steps,
      Opens engine act engine₀ job i parameters steps
        ∧ e = newRecord (engine.lastExecution + 1) job i parameters now
        ∧ r.2 = (engine₀.begin job i parameters steps now).2 := by
  cases h with
  | refused _ => cases hr
  | begun ho => exact ⟨_, _, _, _, _, ho, (Except.ok.inj hr).symm, rfl⟩

-- ============================================================ in the way

/-- An execution of the instance runs. -/
def Active (engine : Engine) (i : Int) : Prop :=
  ∃ e ∈ engine.attemptsOf i, e.isRunning = true

/-- An instance is not run again while an execution of it runs. -/
theorem unfinished_of_active (h : engine.Active i) :
    engine.unfinished i job = .error (.jobRunning job) := by
  unfold unfinished
  exact if_pos (List.any_eq_true.2 h)

/-- Nor once one has completed. -/
theorem unfinished_of_complete (hidle : ¬engine.Active i)
    (hdone : engine.Complete i) :
    engine.unfinished i job = .error (.instanceComplete job) := by
  have hany : ((engine.attemptsOf i).any fun e => e.status = .completed)
      = true := by
    obtain ⟨e, he, hs⟩ := hdone
    exact List.any_eq_true.2 ⟨e, he, decide_eq_true hs⟩
  unfold unfinished
  dsimp only
  rw [if_neg fun h => hidle (List.any_eq_true.1 h), if_pos hany]

/-- Otherwise it is. -/
theorem unfinished_of_vacant (hidle : ¬engine.Active i)
    (hopen : ¬engine.Complete i) : engine.unfinished i job = .ok () := by
  refine unfinished_eq_ok.2 fun e he => ⟨?_, fun hs => hopen ⟨e, he, hs⟩⟩
  cases hr : e.isRunning with
  | false => rfl
  | true => exact absurd ⟨e, he, hr⟩ hidle

-- ============================================================== one is added

/-- An execution was added, and a runner for it if the engine has runners;
all others, the steps and what the engine was made with are as they
were. -/
structure Added (engine next : Engine) (steps : List String) (now : Instant)
    (e : Execution) : Prop where
  /-- It has the next id, under which there was none. -/
  id : e.id = engine.lastExecution + 1
  unknown : engine.execution? e.id = none
  /-- It is started and nothing has happened in it yet. -/
  status : e.status = .started
  times : e.startTime = some now ∧ e.lastUpdated = some now
    ∧ e.endTime = none
  bare : e.exit = none ∧ e.steps = []
  /-- It stands behind the others. -/
  executions : next.executions = engine.executions ++ [e]
  lastExecution : next.lastExecution = e.id
  lastStep : next.lastStep = engine.lastStep
  setup : next.definitions = engine.definitions ∧ next.pace = engine.pace
  attached : next.attached
    = engine.attached ++ if engine.pace.isSome then [e.id] else []
  runners : next.runners = engine.runners ++ if engine.pace.isSome then
    [{ execution := e.id, todo := steps, phase := .starting }] else []

/-- What goes ahead adds an execution. -/
theorem Opens.added {engine₀ : Engine} (hn : engine.Numbered)
    (ho : Opens engine act engine₀ job i parameters steps)
    (now : Instant) :
    Added engine (engine₀.begin job i parameters steps now).2 steps now
      (newRecord (engine.lastExecution + 1) job i parameters now) := by
  obtain ⟨hex, hlast, hpace, hatt, hruns, hdefs⟩ := ho.same
  have hstep : engine₀.lastStep = engine.lastStep := by cases ho <;> rfl
  have hunknown : engine.execution? (engine.lastExecution + 1) = none := by
    rw [execution?_eq_none]
    intro x hx hid
    have hle := hn.executions_le x hx
    omega
  rw [begin_eq, hex, hlast, hpace, hatt, hruns]
  exact ⟨rfl, hunknown, rfl, ⟨rfl, rfl, rfl⟩, ⟨rfl, rfl⟩, rfl, rfl, hstep,
    ⟨hdefs, rfl⟩, rfl, rfl⟩

-- ================================================================ its instance

/-- The execution is of an instance that was there, with its parameters, and
no instance was added. -/
structure Joined (engine next : Engine) (e : Execution) : Prop where
  there : ∃ i ∈ engine.instances, i.job = e.job
    ∧ i.identifying = e.parameters ∧ e.instanceId = some i.id
  instances : next.instances = engine.instances
  lastInstance : next.lastInstance = engine.lastInstance

/-- The execution is of an instance that was founded for it: there was none
of its job with its parameters. -/
structure Founded (engine next : Engine) (e : Execution) : Prop where
  none : ∀ i ∈ engine.instances, i.job = e.job →
    i.identifying ≠ e.parameters
  /-- The instance has the next id, under which there was none. -/
  own : e.instanceId = some (engine.lastInstance + 1)
  unknown : engine.instance? (engine.lastInstance + 1) = .none
  instances : next.instances = engine.instances
    ++ [{ id := engine.lastInstance + 1, job := e.job
          identifying := e.parameters }]
  lastInstance : next.lastInstance = engine.lastInstance + 1

/-- No instance is found that does not have the job and the parameters. -/
theorem instanceFor?_eq_none :
    engine.instanceFor? job parameters = none
      ↔ ∀ i ∈ engine.instances, i.job = job →
          i.identifying ≠ parameters := by
  unfold instanceFor?
  rw [List.find?_eq_none]
  simp

/-- The next instance id finds nothing. -/
theorem Numbered.instance?_next (hn : engine.Numbered) :
    engine.instance? (engine.lastInstance + 1) = none := by
  unfold instance?
  rw [List.find?_eq_none]
  intro i hi hid
  have hle := hn.instances_le i hi
  have hid : i.id = engine.lastInstance + 1 := by simpa using hid
  omega

/-- A launch that goes ahead begins an execution of its job with the
parameters that it goes ahead with. -/
theorem Opens.launched {name : String} {given : Dict} {engine₀ : Engine}
    (ho : Opens engine (.launch name given) engine₀ job i parameters
      steps) :
    ∃ d, engine.definition? name = some d ∧ job = name
      ∧ parameters = engine.effective d given ∧ steps = d.steps := by
  cases ho with
  | join hd _ _ => exact ⟨_, (launchable_eq_ok.1 hd).1, rfl, rfl, rfl⟩
  | found hd _ => exact ⟨_, (launchable_eq_ok.1 hd).1, rfl, rfl, rfl⟩

/-- A launch that goes ahead joins an instance or founds one. -/
theorem Opens.placed {name : String} {given : Dict} {engine₀ : Engine}
    (hn : engine.Numbered)
    (ho : Opens engine (.launch name given) engine₀ job i parameters
      steps) :
    Joined engine (engine₀.begin job i parameters steps now).2
        (newRecord (engine.lastExecution + 1) job i parameters now)
      ∨ Founded engine (engine₀.begin job i parameters steps now).2
        (newRecord (engine.lastExecution + 1) job i parameters now) := by
  rw [begin_eq]
  cases ho with
  | join _ hi _ =>
      obtain ⟨hmem, hjob, hpar⟩ := mem_of_instanceFor? hi
      exact .inl ⟨⟨_, hmem, hjob, hpar, rfl⟩, rfl, rfl⟩
  | found _ hi =>
      exact .inr ⟨instanceFor?_eq_none.1 hi, rfl, hn.instance?_next, rfl,
        rfl⟩

/-- The execution is another one of the same instance, which is left as it
is. -/
structure Retried (engine next : Engine) (x e : Execution) : Prop where
  job : e.job = x.job
  instanceId : e.instanceId = x.instanceId
  parameters : e.parameters = x.parameters
  instances : next.instances = engine.instances
  lastInstance : next.lastInstance = engine.lastInstance

/-- A restart that goes ahead retries the execution it is about. -/
theorem Opens.retried {id : Int} {engine₀ : Engine}
    (ho : Opens engine (.restart id) engine₀ job i parameters steps)
    (now : Instant) :
    ∃ x d, engine.execution? id = some x
      ∧ engine.definition? x.job = some d ∧ steps = d.steps
      ∧ Retried engine (engine₀.begin job i parameters steps now).2 x
        (newRecord (engine.lastExecution + 1) job i parameters now) := by
  rw [begin_eq]
  cases ho with
  | restart hr =>
      obtain ⟨hx, hi, hd, -⟩ := restartable_eq_ok.1 hr
      exact ⟨_, _, hx, hd, rfl, rfl, hi.symm, rfl, rfl, rfl⟩

end BatchAdmin.Engine
