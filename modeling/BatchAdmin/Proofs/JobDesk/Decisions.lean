/-
What the job desk decides about launches and restarts.

A launch or a restart passes a row of checks in a fixed order, and the first
one that holds is the answer. `Decides` says so of an answer and a row: it is
a failure exactly if it is the failure of the first check that holds, and a
success exactly if none does. The rows (`launchChecks`, `restartChecks`) are
about what is on record, and the theorems say that they are all there is to
it, in every engine that has been played: what fails changes nothing, and
what goes ahead adds one execution.

Where the rows speak of the instance of the launch, the code looks for the
first one with the job and the parameters; that it is the only one, and that
an execution on record has an instance and a defined job, are invariants of
plays (Identity).
-/
import BatchAdmin.JobDesk.Control
import BatchAdmin.Proofs.Engine.Listing
import BatchAdmin.Proofs.Engine.RunNumbers

namespace BatchAdmin

-- =============================================================== the verdict

/-- The failure of the first check that holds. -/
inductive First : List (Prop × Failure) → Failure → Prop
  | here {condition : Prop} {failure : Failure}
      {rest : List (Prop × Failure)} (h : condition) :
      First ((condition, failure) :: rest) failure
  | later {condition : Prop} {failure found : Failure}
      {rest : List (Prop × Failure)} (h : ¬condition)
      (hf : First rest found) : First ((condition, failure) :: rest) found

/-- The checks decide on the answer, in the order in which they stand. -/
structure Decides {α : Type} (checks : List (Prop × Failure))
    (answer : Answer α) : Prop where
  error_iff : ∀ failure, answer = .error failure ↔ First checks failure
  ok_iff : (∃ a, answer = .ok a) ↔ ∀ check ∈ checks, ¬check.1

variable {α : Type} {condition : Prop} {failure : Failure}
  {checks rest : List (Prop × Failure)} {answer : Answer α}

/-- What is found is the failure of a check. -/
theorem First.mem (h : First checks failure) :
    ∃ condition, (condition, failure) ∈ checks := by
  induction h with
  | here _ => exact ⟨_, List.mem_cons_self⟩
  | later _ _ ih =>
      obtain ⟨condition, hmem⟩ := ih
      exact ⟨condition, List.mem_cons_of_mem _ hmem⟩

/-- The answer is no failure that none of the checks has. -/
theorem Decides.ne_error (h : Decides checks answer)
    (hno : ∀ check ∈ checks, check.2 ≠ failure) :
    answer ≠ .error failure := by
  intro hanswer
  obtain ⟨condition, hmem⟩ := ((h.error_iff failure).1 hanswer).mem
  exact hno _ hmem rfl

/-- Without checks there is nothing in the way. -/
theorem Decides.nil {a : α} : Decides [] (.ok a : Answer α) :=
  ⟨fun _ => ⟨nofun, nofun⟩, ⟨fun _ => nofun, fun _ => ⟨a, rfl⟩⟩⟩

/-- A row of checks decides if its first one does and the others do where
that one does not hold. -/
theorem Decides.cons (hfails : condition → answer = .error failure)
    (hpasses : ¬condition → Decides rest answer) :
    Decides ((condition, failure) :: rest) answer := by
  by_cases h : condition
  · rw [hfails h]
    refine ⟨fun found => ⟨?_, ?_⟩, ⟨nofun, fun hall => ?_⟩⟩
    · intro heq
      injection heq with heq
      subst heq
      exact .here h
    · intro hf
      cases hf with
      | here _ => rfl
      | later hno _ => exact absurd h hno
    · exact absurd h (hall _ List.mem_cons_self)
  · have hrest := hpasses h
    refine ⟨fun found => (hrest.error_iff found).trans ⟨.later h, ?_⟩,
      hrest.ok_iff.trans ?_⟩
    · intro hf
      cases hf with
      | here hc => exact absurd hc h
      | later _ hf => exact hf
    · rw [List.forall_mem_cons]
      exact ⟨fun hall => ⟨h, hall⟩, And.right⟩

namespace JobDesk

open Engine (Added Joined Founded Retried Turn)

variable {engine : Engine} {now : Instant} {job : String}
  {parameters : Dict} {d : JobDefinition}

/-- A report on the answer is a failure where the answer is. -/
theorem reported_error {r : Answer Execution × Engine} :
    (reported now r).1 = .error failure ↔ r.1 = .error failure := by
  obtain ⟨answer, next⟩ := r
  cases answer with
  | error other =>
      rw [reported]
      simp only [Except.error.injEq]
  | ok e =>
      rw [reported]
      simp only [reduceCtorEq]

/-- And is on the execution that is the answer. -/
theorem reported_ok {r : Answer Execution × Engine}
    {report : ExecutionReport} :
    (reported now r).1 = .ok report
      ↔ ∃ e, r.1 = .ok e ∧ report = .of now e := by
  obtain ⟨answer, next⟩ := r
  cases answer with
  | error other =>
      rw [reported]
      simp only [reduceCtorEq, false_and, exists_false]
  | ok e =>
      rw [reported]
      simp only [Except.ok.injEq, exists_eq_left', eq_comm]

/-- A report leaves the engine as the answer found it. -/
@[simp] theorem reported_engine (r : Answer Execution × Engine) :
    (reported now r).2 = r.2 := by
  obtain ⟨answer, next⟩ := r
  cases answer <;> rfl

/-- What decides on an answer decides on the report of it. -/
theorem decides_reported {r : Answer Execution × Engine}
    (h : Decides checks r.1) : Decides checks (reported now r).1 := by
  refine ⟨fun failure => reported_error.trans (h.error_iff failure), ?_⟩
  rw [← h.ok_iff]
  constructor
  · rintro ⟨report, hr⟩
    obtain ⟨e, he, -⟩ := reported_ok.1 hr
    exact ⟨e, he⟩
  · rintro ⟨e, he⟩
    exact ⟨_, reported_ok.2 ⟨e, he, rfl⟩⟩

-- ============================================================== the launches

/-- The instance of a launch: it is of the job and has the parameters that
the launch goes ahead with. -/
def OfLaunch (engine : Engine) (d : JobDefinition) (job : String)
    (parameters : Dict) (i : JobInstance) : Prop :=
  i ∈ engine.instances ∧ i.job = job
    ∧ i.identifying = engine.effective d parameters

/-- What may stand in the way of a launch of a job that has a definition. -/
def launchChecks (engine : Engine) (d : JobDefinition) (job : String)
    (parameters : Dict) : List (Prop × Failure) :=
  [(d.launchable = false,
      .invalidParameters ("job " ++ job ++ " is not launchable")),
    (∃ name ∈ d.requiredParameters, parameters.has name = false,
      .invalidParameters ("missing required parameters: "
        ++ ", ".intercalate (Engine.missing d parameters))),
    ((d.concurrent = false
        ∧ ∃ e ∈ engine.executionsOf job, e.isRunning = true)
      ∨ ∃ i, OfLaunch engine d job parameters i ∧ engine.Active i.id,
      .jobRunning job),
    (∃ i, OfLaunch engine d job parameters i ∧ engine.Complete i.id,
      .instanceComplete job)]

/-- A required parameter that is not given is missing. -/
theorem missing_ne_nil :
    Engine.missing d parameters ≠ []
      ↔ ∃ name ∈ d.requiredParameters, parameters.has name = false := by
  unfold Engine.missing
  rw [ne_eq, List.filter_eq_nil_iff]
  simp only [not_forall, Bool.not_eq_true', Bool.not_eq_true,
    Bool.not_eq_false, exists_prop]

/-- The instance of a launch is the one that is found. -/
theorem OfLaunch.found {i : JobInstance} (ht : engine.Tied)
    (hi : OfLaunch engine d job parameters i) :
    engine.instanceFor? job (engine.effective d parameters) = some i := by
  obtain ⟨hmem, hjob, hpar⟩ := hi
  cases hf : engine.instanceFor? job (engine.effective d parameters) with
  | none => exact absurd hpar (Engine.instanceFor?_eq_none.1 hf i hmem hjob)
  | some j =>
      obtain ⟨hj, hjob', hpar'⟩ := Engine.mem_of_instanceFor? hf
      rw [ht.single j hj i hmem (hjob'.trans hjob.symm)
        (hpar'.trans hpar.symm)]

/-- What is not even launchable is not launched. -/
private theorem launch_of_error
    (h : engine.launchable job parameters = .error failure) :
    (engine.launch job parameters now).1 = .error failure := by
  unfold Engine.launch
  rw [h]

/-- What would join an instance that stands in the way is not launched. -/
private theorem launch_of_unfinished {i : JobInstance} (ht : engine.Tied)
    (hl : engine.launchable job parameters = .ok d)
    (hi : OfLaunch engine d job parameters i)
    (hu : engine.unfinished i.id job = .error failure) :
    (engine.launch job parameters now).1 = .error failure := by
  unfold Engine.launch
  rw [hl]
  dsimp only
  rw [hi.found ht]
  dsimp only
  rw [hu]

/-- What joins no instance that stands in the way is launched. -/
private theorem launch_of_ok
    (hl : engine.launchable job parameters = .ok d)
    (hidle : ∀ i, OfLaunch engine d job parameters i → ¬engine.Active i.id)
    (hopen : ∀ i, OfLaunch engine d job parameters i →
      ¬engine.Complete i.id) (now : Instant) :
    ∃ e, (engine.launch job parameters now).1 = .ok e := by
  unfold Engine.launch
  rw [hl]
  dsimp only
  cases hf : engine.instanceFor? job (engine.effective d parameters) with
  | none => exact ⟨_, rfl⟩
  | some i =>
      have hi : OfLaunch engine d job parameters i :=
        Engine.mem_of_instanceFor? hf
      dsimp only
      rw [Engine.unfinished_of_vacant (hidle i hi) (hopen i hi)]
      exact ⟨_, rfl⟩

/-- What is looked at when the job has a definition. -/
private theorem launchable_eq (hd : engine.definition? job = some d)
    (parameters : Dict) :
    engine.launchable job parameters
      = if d.launchable = false then
          .error (.invalidParameters ("job " ++ job ++ " is not launchable"))
        else if ∃ name ∈ d.requiredParameters, parameters.has name = false then
          .error (.invalidParameters ("missing required parameters: "
            ++ ", ".intercalate (Engine.missing d parameters)))
        else if d.concurrent = false
            ∧ ∃ e ∈ engine.executionsOf job, e.isRunning = true then
          .error (.jobRunning job)
        else .ok d := by
  unfold Engine.launchable
  simp only [hd, missing_ne_nil, Bool.not_eq_true', Bool.and_eq_true,
    List.any_eq_true]

/-- The checks decide on a launch. -/
theorem decides_launch (ht : engine.Tied)
    (hd : engine.definition? job = some d) :
    Decides (launchChecks engine d job parameters)
      (engine.launch job parameters now).1 := by
  have heq := launchable_eq hd parameters
  refine .cons (fun hl => ?_) fun hl => .cons (fun hm => ?_) fun hm =>
    .cons (fun hrun => ?_) fun hidle => .cons (fun hdone => ?_) fun hopen => ?_
  · rw [if_pos hl] at heq
    exact launch_of_error heq
  · rw [if_neg hl, if_pos hm] at heq
    exact launch_of_error heq
  · -- two things are looked at one after the other and fail alike
    by_cases hcrowd : d.concurrent = false
        ∧ ∃ e ∈ engine.executionsOf job, e.isRunning = true
    · rw [if_neg hl, if_neg hm, if_pos hcrowd] at heq
      exact launch_of_error heq
    · rw [if_neg hl, if_neg hm, if_neg hcrowd] at heq
      obtain ⟨i, hi, hactive⟩ := hrun.resolve_left hcrowd
      exact launch_of_unfinished ht heq hi
        (Engine.unfinished_of_active hactive)
  · obtain ⟨hcrowd, hidle⟩ := not_or.1 hidle
    rw [if_neg hl, if_neg hm, if_neg hcrowd] at heq
    obtain ⟨i, hi, hcomplete⟩ := hdone
    exact launch_of_unfinished ht heq hi
      (Engine.unfinished_of_complete (fun h => hidle ⟨i, hi, h⟩) hcomplete)
  · obtain ⟨hcrowd, hidle⟩ := not_or.1 hidle
    rw [if_neg hl, if_neg hm, if_neg hcrowd] at heq
    obtain ⟨e, he⟩ := launch_of_ok heq
      (fun i hi h => hidle ⟨i, hi, h⟩) (fun i hi h => hopen ⟨i, hi, h⟩) now
    rw [he]
    exact .nil

/-- The job desk leaves a launch to the engine. -/
theorem launch_eq (engine : Engine) (now : Instant) (job : String)
    (parameters : Dict) :
    launch engine now job parameters
      = reported now (engine.launch job parameters now) := by
  unfold launch
  split
  · rfl
  · rename_i hjob
    -- no such job is known, so it has no definition either
    have hd : engine.definition? job = none := by
      rw [Engine.hasJob, Bool.or_eq_true, not_or] at hjob
      simpa using hjob.1
    have hl : engine.launchable job parameters
        = .error (.noSuchJob job) := by
      unfold Engine.launchable
      rw [hd]
    unfold Engine.launch
    rw [hl]
    rfl

/-- How a launch is decided, what it answers and what it leaves. -/
structure LaunchDecided (engine : Engine) (now : Instant) (job : String)
    (parameters : Dict) (answer : Answer ExecutionReport) (next : Engine) :
    Prop where
  noSuchJob : answer = .error (.noSuchJob job)
    ↔ engine.definition? job = none
  /-- Of a job with a definition the checks decide. -/
  decides : ∀ d, engine.definition? job = some d →
    Decides (launchChecks engine d job parameters) answer
  /-- What fails leaves everything as it was. -/
  failed : ∀ failure, answer = .error failure → next = engine
  /-- What does not fail adds one execution, of an instance that was there
  or of one that was founded for it. -/
  added : ∀ report, answer = .ok report →
    ∃ d e, engine.definition? job = some d ∧ report = .of now e
      ∧ e.job = job ∧ e.parameters = engine.effective d parameters
      ∧ Added engine next d.steps now e
      ∧ (Joined engine next e ∨ Founded engine next e)

/-- Where the records hold together a launch is decided. -/
theorem decided_launch (hn : engine.Numbered) (ht : engine.Tied)
    (now : Instant) (job : String) (parameters : Dict) :
    LaunchDecided engine now job parameters
      (launch engine now job parameters).1
      (launch engine now job parameters).2 := by
  have hends := Engine.launch_ends engine job parameters now
  rw [launch_eq, reported_engine]
  refine ⟨?_, fun d hd => decides_reported (decides_launch ht hd),
    ?_, ?_⟩
  · constructor
    · intro hanswer
      cases hd : engine.definition? job with
      | none => rfl
      | some d =>
          -- no check of a job with a definition fails with this
          exact absurd hanswer ((decides_reported (decides_launch ht hd)).ne_error
            (by simp [launchChecks]))
    · intro hd
      refine reported_error.2 (launch_of_error ?_)
      unfold Engine.launchable
      rw [hd]
  · intro failure hanswer
    exact hends.of_error (reported_error.1 hanswer)
  · intro report hanswer
    obtain ⟨e, he, hreport⟩ := reported_ok.1 hanswer
    obtain ⟨engine₀, _, i, _, _, ho, rfl, hnext⟩ := hends.of_ok he
    obtain ⟨d, hd, rfl, rfl, rfl⟩ := ho.launched
    rw [hnext]
    exact ⟨d, _, hd, hreport, rfl, rfl, ho.added hn now, ho.placed hn⟩

/-- Whatever was done to an engine before, a launch fails by the first thing
that stands in its way and changes nothing, or adds one execution. -/
theorem launch_decides (definitions : List JobDefinition)
    (pace : Option Nat) (turns : List Turn) (now : Instant) (job : String)
    (parameters : Dict) :
    let engine := (Engine.fresh definitions pace).play turns
    LaunchDecided engine now job parameters
      (launch engine now job parameters).1
      (launch engine now job parameters).2 := by
  intro engine
  have hn : engine.Numbered := Engine.numbered_play definitions pace turns
  have ht : engine.Tied := (Engine.tied_fresh definitions pace).play
    (Engine.numbered_fresh definitions pace) turns
  exact decided_launch hn ht now job parameters

-- ============================================================== the restarts

/-- What may stand in the way of a restart of an execution, of this instance
and of the job with this definition. -/
def restartChecks (engine : Engine) (x : Execution) (i : Int)
    (d : JobDefinition) : List (Prop × Failure) :=
  [(d.restartable = false, .notRestartable x.id),
    (x.isRunning = true, .jobRunning x.job),
    (x.status ≠ .stopped ∧ x.status ≠ .failed, .notRestartable x.id),
    (engine.Active i, .jobRunning x.job),
    (engine.Complete i, .instanceComplete x.job)]

/-- What is looked at when there is such an execution. -/
private theorem restartable_eq {id i : Int} {x : Execution}
    (hx : engine.execution? id = some x) (hi : x.instanceId = some i)
    (hd : engine.definition? x.job = some d) :
    engine.restartable id
      = if d.restartable = false then .error (.notRestartable x.id)
        else if x.isRunning = true then .error (.jobRunning x.job)
        else if x.status ≠ .stopped ∧ x.status ≠ .failed then
          .error (.notRestartable x.id)
        else (engine.unfinished i x.job).map fun _ => (x, i, d) := by
  obtain rfl : x.id = id := (Engine.mem_of_execution? hx).2
  unfold Engine.restartable
  simp only [hx, hi, hd, Bool.not_eq_true']
  cases engine.unfinished i x.job <;> rfl

/-- What must not be restarted is not. -/
private theorem restart_of_error {id : Int}
    (h : engine.restartable id = .error failure) :
    (engine.restart id now).1 = .error failure := by
  unfold Engine.restart
  rw [h]

/-- The checks decide on a restart. -/
theorem decides_restart {id i : Int} {x : Execution}
    (hx : engine.execution? id = some x) (hi : x.instanceId = some i)
    (hd : engine.definition? x.job = some d) :
    Decides (restartChecks engine x i d) (engine.restart id now).1 := by
  have heq := restartable_eq hx hi hd
  refine .cons (fun hr => ?_) fun hr => .cons (fun hrun => ?_) fun hrun =>
    .cons (fun hs => ?_) fun hs => .cons (fun hactive => ?_) fun hidle =>
    .cons (fun hdone => ?_) fun hopen => ?_
  · rw [if_pos hr] at heq
    exact restart_of_error heq
  · rw [if_neg hr, if_pos hrun] at heq
    exact restart_of_error heq
  · rw [if_neg hr, if_neg hrun, if_pos hs] at heq
    exact restart_of_error heq
  · rw [if_neg hr, if_neg hrun, if_neg hs,
      Engine.unfinished_of_active hactive] at heq
    exact restart_of_error heq
  · rw [if_neg hr, if_neg hrun, if_neg hs,
      Engine.unfinished_of_complete hidle hdone] at heq
    exact restart_of_error heq
  · rw [if_neg hr, if_neg hrun, if_neg hs,
      Engine.unfinished_of_vacant hidle hopen] at heq
    unfold Engine.restart
    rw [heq]
    exact .nil

/-- The job desk leaves a restart to the engine. -/
theorem restart_eq (engine : Engine) (now : Instant) (id : Int) :
    restart engine now id = reported now (engine.restart id now) := by
  unfold restart Engine.findExecution
  cases hx : engine.execution? id with
  | some x => rfl
  | none =>
      have hr : engine.restartable id = .error (.noSuchExecution id) := by
        unfold Engine.restartable
        rw [hx]
      unfold Engine.restart
      rw [hr]
      rfl

/-- How a restart is decided, what it answers and what it leaves. -/
structure RestartDecided (engine : Engine) (now : Instant) (id : Int)
    (answer : Answer ExecutionReport) (next : Engine) : Prop where
  noSuchExecution : answer = .error (.noSuchExecution id)
    ↔ engine.execution? id = none
  /-- An execution on record is of an instance and of a job with a
  definition, and the checks decide. -/
  decides : ∀ x, engine.execution? id = some x →
    ∃ i d, x.instanceId = some i ∧ engine.definition? x.job = some d
      ∧ Decides (restartChecks engine x i d) answer
  /-- What fails leaves everything as it was. -/
  failed : ∀ failure, answer = .error failure → next = engine
  /-- What does not fail adds one execution, of the same instance, and takes
  no run number. -/
  added : ∀ report, answer = .ok report →
    ∃ x d e, engine.execution? id = some x
      ∧ engine.definition? x.job = some d ∧ report = .of now e
      ∧ Added engine next d.steps now e ∧ Retried engine next x e
      ∧ ∀ job, next.nextRunNumber job = engine.nextRunNumber job

/-- Where the records hold together a restart is decided. -/
theorem decided_restart (hn : engine.Numbered) (ht : engine.Tied)
    (now : Instant) (id : Int) :
    RestartDecided engine now id (restart engine now id).1
      (restart engine now id).2 := by
  have hdecides : ∀ x, engine.execution? id = some x →
      ∃ i d, x.instanceId = some i ∧ engine.definition? x.job = some d
        ∧ Decides (restartChecks engine x i d)
          (reported now (engine.restart id now)).1 := by
    intro x hx
    have hmem := (Engine.mem_of_execution? hx).1
    obtain ⟨i, -, hi, -⟩ := hn.belongs x hmem
    obtain ⟨d, hd, -⟩ := ht.launchable x hmem
    exact ⟨i.id, d, hi, hd, decides_reported (decides_restart hx hi hd)⟩
  have hends := Engine.restart_ends engine id now
  rw [restart_eq, reported_engine]
  refine ⟨?_, hdecides, ?_, ?_⟩
  · constructor
    · intro hanswer
      cases hx : engine.execution? id with
      | none => rfl
      | some x =>
          -- no check of an execution on record fails with this
          obtain ⟨i, d, -, -, hdec⟩ := hdecides x hx
          exact absurd hanswer (hdec.ne_error (by simp [restartChecks]))
    · intro hx
      refine reported_error.2 (restart_of_error ?_)
      unfold Engine.restartable
      rw [hx]
  · intro failure hanswer
    exact hends.of_error (reported_error.1 hanswer)
  · intro report hanswer
    obtain ⟨e, he, hreport⟩ := reported_ok.1 hanswer
    obtain ⟨engine₀, _, i, _, _, ho, rfl, hnext⟩ := hends.of_ok he
    have hadded := ho.added hn now
    obtain ⟨x, d, hx, hd, rfl, hretried⟩ := ho.retried now
    rw [← hnext] at hadded hretried
    refine ⟨x, d, _, hx, hd, hreport, hadded, hretried, fun job => ?_⟩
    have hu : Engine.Undisturbed engine (engine.restart id now).2 job :=
      (hn.effect ⟨.restart id, now⟩).undisturbed hn rfl
    exact hu.nextRunNumber

/-- Whatever was done to an engine before, a restart fails by the first thing
that stands in its way and changes nothing, or adds one execution of the same
instance. -/
theorem restart_decides (definitions : List JobDefinition)
    (pace : Option Nat) (turns : List Turn) (now : Instant) (id : Int) :
    let engine := (Engine.fresh definitions pace).play turns
    RestartDecided engine now id (restart engine now id).1
      (restart engine now id).2 := by
  intro engine
  have hn : engine.Numbered := Engine.numbered_play definitions pace turns
  have ht : engine.Tied := (Engine.tied_fresh definitions pace).play
    (Engine.numbered_fresh definitions pace) turns
  exact decided_restart hn ht now id

end JobDesk

end BatchAdmin
