/-
The views of the executions agree.

The job desk tells of executions from three sides: it counts and lists those
of a job, it lists the instances of a job with the executions of each, and
it counts and lists all there are. Every answer goes over the engine's
records with a filter of its own, by the job, by the instance or by the
status, and nothing in the records says twice where an execution belongs.

That the answers agree (`views_agree`) rests on what holds of the records
in every engine that has been played: an execution is of one instance, the
instance is of the same job, and the job has a definition. So the parts of a
list of executions, by instance or by job, make up the list again
(`sum_length_parts`).
-/
import BatchAdmin.Proofs.JobDesk.Reports
import Mathlib.Data.Finset.Card
import Mathlib.Data.Finset.Dedup
import Mathlib.Algebra.BigOperators.Group.List.Basic
import Mathlib.Algebra.GroupWithZero.Nat

namespace BatchAdmin.JobDesk

open Engine (window)

-- ==================================================================== parts

/-- Where each key stands once, one of them is that of a member. -/
private theorem sum_key {κ : Type} [BEq κ] [LawfulBEq κ] {keys : List κ}
    {k : κ} (hu : keys.Nodup) (hk : k ∈ keys) :
    (keys.map fun k' => if k == k' then 1 else 0).sum = 1 := by
  induction keys with
  | nil => cases hk
  | cons first rest ih =>
      obtain ⟨hfirst, hrest⟩ := List.nodup_cons.1 hu
      rw [List.map_cons, List.sum_cons]
      by_cases hsame : k = first
      · subst hsame
        -- none of the others is this key
        have hothers : (rest.map fun k' => if k == k' then 1 else 0).sum
            = 0 := by
          apply List.sum_eq_zero
          intro n hn
          obtain ⟨k', hk', rfl⟩ := List.mem_map.1 hn
          have hne : k ≠ k' := fun h => hfirst (h ▸ hk')
          simp [hne]
        rw [hothers]
        simp
      · have hmem : k ∈ rest := (List.mem_cons.1 hk).resolve_left hsame
        rw [ih hrest hmem]
        simp [hsame]

/-- The parts of a list by a key make up the list, if each key of a member
stands once among the keys. -/
theorem sum_length_parts {α κ : Type} [BEq κ] [LawfulBEq κ] (key : α → κ)
    {keys : List κ} (hu : keys.Nodup) {xs : List α}
    (hall : ∀ x ∈ xs, key x ∈ keys) :
    (keys.map fun k => (xs.filter fun x => key x == k).length).sum
      = xs.length := by
  induction xs with
  | nil => simp
  | cons x rest ih =>
      obtain ⟨hx, hrest⟩ := List.forall_mem_cons.1 hall
      have hsplit (k : κ) :
          ((x :: rest).filter fun y => key y == k).length
            = (rest.filter fun y => key y == k).length
              + if key x == k then 1 else 0 := by
        by_cases hk : key x = k <;> simp [hk]
      simp only [hsplit]
      rw [List.sum_map_add, ih hrest, sum_key hu hx, List.length_cons]

variable {engine : Engine} {now : Instant} {job : String}

-- ================================================================= one job

/-- A report is told with an instance if it is of one of its executions. -/
theorem mem_told {i : JobInstance} {x : ExecutionReport} :
    x ∈ (told engine now i).executions
      ↔ ∃ e ∈ engine.executions, e.instanceId = some i.id
          ∧ ExecutionReport.of now e = x := by
  have hlist : (told engine now i).executions
      = (engine.attemptsOf i.id).reverse.map (.of now) := rfl
  rw [hlist, List.mem_map]
  simp only [List.mem_reverse, Engine.mem_attemptsOf, and_assoc]

/-- The views of the executions of a job: a summary with a count and the
last of them, a list, and the instances of the job with theirs. -/
structure Agree (engine : Engine) (now : Instant) (job : String)
    (list : List ExecutionReport) (instances : List InstanceReport) :
    Prop where
  /-- As many are counted as are listed. -/
  count : (summary engine now job).executionCount = list.length
  /-- As many are told with the instances. -/
  sum : (instances.map (·.executions.length)).sum = list.length
  /-- Each is told with one instance of the job. -/
  once : ∀ x ∈ list, ∃! i, i ∈ instances ∧ x ∈ i.executions
  /-- None is told with another instance, whatever its job. -/
  nowhere : ∀ x ∈ list, ∀ id i, findInstance engine now id = .ok i →
    x ∈ i.executions → i ∈ instances
  /-- There is a last one unless there is none. -/
  none : (summary engine now job).lastExecution = none ↔ list = []
  /-- The last one has the largest id. -/
  last : ∀ x ∈ (summary engine now job).lastExecution,
    x ∈ list ∧ ∀ y ∈ list, y.id ≤ x.id
  /-- Instances tell of theirs newest first. -/
  newest : ∀ i ∈ instances, i.executions.Pairwise fun a b => b.id < a.id
  /-- An instance is told alike by its id. -/
  found : ∀ i ∈ instances, findInstance engine now i.id = .ok i
  /-- Its executions are listed alike, with its job named or not. -/
  attempts : ∀ i ∈ instances, ∀ name : Option String,
    name = Option.none ∨ name = some job →
      executionsOfInstance engine now name i.id = .ok i.executions

section Agree

variable (hn : engine.Numbered)

include hn

/-- The executions of an instance are those of its job that are of the
instance. -/
private theorem attemptsOf_eq {i : JobInstance}
    (hi : i ∈ engine.instances) :
    engine.attemptsOf i.id = (engine.executionsOf i.job).filter fun e =>
      e.instanceId == some i.id := by
  unfold Engine.executionsOf
  rw [List.filter_filter]
  apply List.filter_congr
  intro e he
  by_cases hid : e.instanceId = some i.id
  · have hjob : e.job = i.job :=
      hn.job_of_mem_attemptsOf hi (Engine.mem_attemptsOf.2 ⟨he, hid⟩)
    simp [hid, hjob]
  · simp [hid]

/-- The instances of a job tell of as many executions as the job has. -/
private theorem sum_attempts (job : String) :
    ((engine.instancesOf job).map fun i =>
        (engine.attemptsOf i.id).length).sum
      = (engine.executionsOf job).length := by
  have hids : ((engine.instancesOf job).map fun i => some i.id).Nodup := by
    refine (List.pairwise_map.2 ((hn.instancesOf job).imp ?_))
    intro a b hlt heq
    have hid : a.id = b.id := Option.some.inj heq
    omega
  have hall : ∀ e ∈ engine.executionsOf job,
      e.instanceId ∈ (engine.instancesOf job).map fun i => some i.id := by
    intro e he
    obtain ⟨he, hjob⟩ := Engine.mem_executionsOf.1 he
    obtain ⟨i, hi, hid, hijob, -⟩ := hn.belongs e he
    rw [hid, List.mem_map]
    exact ⟨i, Engine.mem_instancesOf.2 ⟨hi, hijob.trans hjob⟩, rfl⟩
  rw [← sum_length_parts (·.instanceId) hids hall, List.map_map]
  apply congrArg List.sum
  apply List.map_congr_left
  intro i hmem
  obtain ⟨hi, rfl⟩ := Engine.mem_instancesOf.1 hmem
  rw [attemptsOf_eq hn hi]
  rfl

/-- An execution is told with the one instance that it is of. -/
private theorem once_told {e : Execution} (he : e ∈ engine.executions) :
    ∃! i, i ∈ (engine.instancesOf e.job).map (told engine now)
      ∧ ExecutionReport.of now e ∈ i.executions := by
  obtain ⟨i, hi, hid, hjob, -⟩ := hn.belongs e he
  refine ⟨told engine now i, ⟨?_, mem_told.2 ⟨e, he, hid, rfl⟩⟩, ?_⟩
  · exact List.mem_map_of_mem (Engine.mem_instancesOf.2 ⟨hi, hjob⟩)
  · intro i' htold
    obtain ⟨hmem, hx⟩ := htold
    obtain ⟨j, hj, rfl⟩ := List.mem_map.1 hmem
    obtain ⟨hj, -⟩ := Engine.mem_instancesOf.1 hj
    obtain ⟨e', -, hid', hsame⟩ := mem_told.1 hx
    -- a report carries the id of the instance
    have hreport : e'.instanceId = e.instanceId :=
      congrArg ExecutionReport.instanceId hsame
    rw [hid', hid] at hreport
    rw [List.inj_on_of_nodup_map (Engine.nodup_of_rising hn.instances) hj hi
      (Option.some.inj hreport)]

/-- In a numbered engine the views of a job's executions agree. -/
theorem agree : Agree engine now job
    ((engine.newestOf job).map (.of now))
    ((engine.instancesOf job).map (told engine now)) where
  count := by
    rw [List.length_map]
    rfl
  sum := by
    have hlength (i : JobInstance) :
        (told engine now i).executions.length
          = (engine.attemptsOf i.id).length := by
      show ((engine.attemptsOf i.id).reverse.map _).length = _
      rw [List.length_map, List.length_reverse]
    rw [List.map_map, List.length_map]
    show ((engine.instancesOf job).map fun i =>
      (told engine now i).executions.length).sum = _
    simp only [hlength]
    rw [sum_attempts hn job]
    exact List.length_reverse.symm
  once := by
    intro x hx
    obtain ⟨e, hmem, rfl⟩ := List.mem_map.1 hx
    obtain ⟨he, rfl⟩ := Engine.mem_executionsOf.1 (List.mem_reverse.1 hmem)
    exact once_told hn he
  nowhere := by
    intro x hx id i hfound htold
    obtain ⟨e, hmem, rfl⟩ := List.mem_map.1 hx
    obtain ⟨-, rfl⟩ := Engine.mem_executionsOf.1 (List.mem_reverse.1 hmem)
    obtain ⟨j, hj, rfl⟩ := told_of_findInstance hn hfound
    obtain ⟨e', he', hid, hsame⟩ := mem_told.1 htold
    -- a report carries the name of the job
    have hreport : e'.job = e.job := congrArg ExecutionReport.job hsame
    have hjob : e'.job = j.job :=
      hn.job_of_mem_attemptsOf hj (Engine.mem_attemptsOf.2 ⟨he', hid⟩)
    exact List.mem_map_of_mem
      (Engine.mem_instancesOf.2 ⟨hj, hjob.symm.trans hreport⟩)
  none := by
    show (engine.newestOf job).head?.map _ = Option.none ↔ _
    rw [Option.map_eq_none_iff, List.head?_eq_none_iff, List.map_eq_nil_iff]
  last := by
    intro x hx
    have hx : (engine.newestOf job).head?.map (ExecutionReport.of now)
        = some x := hx
    have hfalling := hn.newestOf job
    cases hlist : engine.newestOf job with
    | nil =>
        rw [hlist] at hx
        cases hx
    | cons first rest =>
        rw [hlist] at hx hfalling
        obtain rfl := Option.some.inj hx
        refine ⟨List.mem_cons_self, ?_⟩
        intro y hy
        obtain ⟨e, he, rfl⟩ := List.mem_map.1 hy
        show e.id ≤ first.id
        rcases List.mem_cons.1 he with rfl | he
        · exact Int.le_refl _
        · have hlt := (List.pairwise_cons.1 hfalling).1 e he
          omega
  newest := by
    intro _ htold
    obtain ⟨i, -, rfl⟩ := List.mem_map.1 htold
    show ((engine.attemptsOf i.id).reverse.map
      (ExecutionReport.of now)).Pairwise _
    rw [List.pairwise_map, List.pairwise_reverse]
    exact (List.pairwise_map.1 hn.executions).sublist List.filter_sublist
  found := by
    intro _ htold
    obtain ⟨i, hmem, rfl⟩ := List.mem_map.1 htold
    exact findInstance_eq hn (Engine.mem_instancesOf.1 hmem).1
  attempts := by
    intro _ htold name hname
    obtain ⟨i, hmem, rfl⟩ := List.mem_map.1 htold
    obtain ⟨hi, rfl⟩ := Engine.mem_instancesOf.1 hmem
    apply executionsOfInstance_eq hn hi
    intro other hother
    rcases hname with rfl | rfl
    · cases hother
    · exact (Option.some.inj hother).symm

end Agree

-- ================================================================= all jobs

/-- A window of this size shows all jobs, instances and executions. -/
structure Room (engine : Engine) (limit : Nat) : Prop where
  definitions : engine.definitions.length ≤ limit
  instances : engine.instances.length ≤ limit
  executions : engine.executions.length ≤ limit

/-- The jobs count as many executions together as there are. -/
private theorem sum_counts (engine : Engine) (now : Instant) :
    (engine.jobNames.map fun job =>
        (summary engine now job).executionCount).sum
      = countExecutions engine := by
  have hcount (job : String) :
      (summary engine now job).executionCount
        = (engine.executionsOf job).length := List.length_reverse
  have htotal : countExecutions engine = engine.executions.length :=
    List.length_reverse
  simp only [hcount, htotal]
  apply sum_length_parts (fun e : Execution => e.job) engine.nodup_jobNames
  intro e he
  exact Engine.mem_jobNames.2 (.inr ⟨e, he, rfl⟩)

/-- There are as many jobs as names of definitions. -/
private theorem length_jobNames (ht : engine.Tied) :
    engine.jobNames.length
      = (engine.definitions.map (·.name)).toFinset.card := by
  rw [← List.toFinset_card_of_nodup engine.nodup_jobNames]
  apply congrArg Finset.card
  ext job
  rw [List.mem_toFinset, List.mem_toFinset, ht.mem_jobNames, List.mem_map]

/-- What is listed as running is what is told to run. -/
private theorem reports_running (engine : Engine) (now : Instant) :
    reports now engine.running
      = (reports now engine.newest).filter (·.running) := by
  unfold reports
  rw [List.filter_map]
  rfl

-- In such a window each listing is shown whole.
namespace Room

variable {limit : Nat} (hroom : Room engine limit)

include hroom

private theorem jobNames (ht : engine.Tied) :
    engine.jobNames.length ≤ limit := by
  rw [length_jobNames ht]
  calc (engine.definitions.map (·.name)).toFinset.card
      ≤ (engine.definitions.map (·.name)).length := List.toFinset_card_le _
    _ = engine.definitions.length := List.length_map _
    _ ≤ limit := hroom.definitions

private theorem told (job : String) :
    ((engine.instancesOf job).map (JobDesk.told engine now)).length
      ≤ limit := by
  rw [List.length_map, Engine.instancesOf, List.length_reverse]
  exact (List.length_filter_le _ _).trans hroom.instances

private theorem newestOf (job : String) :
    (engine.newestOf job).length ≤ limit := by
  rw [Engine.newestOf, List.length_reverse]
  exact (List.length_filter_le _ _).trans hroom.executions

private theorem newest : engine.newest.length ≤ limit := by
  rw [Engine.newest, List.length_reverse]
  exact hroom.executions

end Room

-- ================================================================= the plays

/-- Whatever is done to an engine that has run nothing, the views of each
job's executions agree; the jobs have as many of them together as there
are, there are as many jobs as are defined, and what runs is what is told
to. -/
theorem views_agree (definitions : List JobDefinition) (pace : Option Nat)
    (turns : List Engine.Turn) (now : Instant) (limit : Nat)
    (hroom : Room ((Engine.fresh definitions pace).play turns) limit) :
    let engine := (Engine.fresh definitions pace).play turns
    (∀ job, ∃ all, instances engine now job 0 limit = .ok all
        ∧ Agree engine now job (executionsOf engine now job 0 limit) all)
      ∧ ((jobs engine now 0 limit).map (·.executionCount)).sum
          = countExecutions engine
      ∧ countJobs engine = (definitions.map (·.name)).toFinset.card
      ∧ reports now engine.running
          = (executions engine now 0 limit).filter (·.running) := by
  intro engine
  have hn : engine.Numbered := Engine.numbered_play definitions pace turns
  have ht : engine.Tied := (Engine.tied_fresh definitions pace).play
    (Engine.numbered_fresh definitions pace) turns
  have hdefs : engine.definitions = definitions :=
    Engine.definitions_play definitions pace turns
  refine ⟨?_, ?_, ?_, ?_⟩
  · intro job
    refine ⟨(engine.instancesOf job).map (told engine now), ?_, ?_⟩
    · rw [instances_eq hn, window_all (hroom.told job)]
    · unfold executionsOf
      rw [window_all (hroom.newestOf job)]
      exact agree hn
  · unfold jobs
    rw [window_all (hroom.jobNames ht), List.map_map]
    exact sum_counts engine now
  · rw [← hdefs]
    exact length_jobNames ht
  · unfold executions
    rw [window_all hroom.newest]
    exact reports_running engine now

-- --------------------------------------------------------------- two tries

/-- Two jobs; the second may run beside itself. -/
def twoJobs : List JobDefinition :=
  [{ name := "load" }, { name := "sale", concurrent := true }]

/-- The first is launched, stopped and restarted, the second launched twice
with different parameters. -/
def twoTries : List Engine.Turn :=
  [⟨.launch "load" .empty, 0, 0⟩, ⟨.stop 1, 1, 0⟩, ⟨.restart 1, 2, 0⟩,
    ⟨.launch "sale" .empty, 3, 0⟩,
    ⟨.launch "sale" (.ofList [("day", "2")]), 4, 0⟩]

/-- Of the four executions the first two are told with one instance and the
others with one each. -/
theorem twoTries_agree :
    let engine := (Engine.fresh twoJobs none).play twoTries
    Room engine 20
      ∧ engine.executions.map (fun e => (e.job, e.instanceId))
          = [("load", some 1), ("load", some 1), ("sale", some 2),
            ("sale", some 3)]
      ∧ (∀ job, ∃ all, instances engine ⟨5, 0⟩ job 0 20 = .ok all
        ∧ Agree engine ⟨5, 0⟩ job (executionsOf engine ⟨5, 0⟩ job 0 20) all)
      ∧ countJobs engine = 2 := by
  intro engine
  have hroom : Room engine 20 := ⟨by decide, by decide, by decide⟩
  obtain ⟨hagree, -, hcount, -⟩ := views_agree twoJobs none twoTries ⟨5, 0⟩ 20
    hroom
  exact ⟨hroom, by decide, hagree, hcount.trans (by decide)⟩

end BatchAdmin.JobDesk
