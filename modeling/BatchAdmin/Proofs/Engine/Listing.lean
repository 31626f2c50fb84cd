/-
What the engine's listings hold, and in which order.

Ids rise along the records, so whatever is listed newest first is listed by
falling ids. The names of the jobs are in strict order, hence each is there
once. A job is listed if it has a definition or an execution; since only
defined jobs are launched, the first is enough in an engine that has been
played (`Tied.mem_jobNames`).
-/
import BatchAdmin.Engine.Listing
import BatchAdmin.Proofs.Engine.Identity
import Mathlib.Data.List.Sort

namespace BatchAdmin.Engine

variable {engine : Engine} {job : String}

-- =============================================================== executions

theorem Numbered.newest (hn : engine.Numbered) :
    engine.newest.Pairwise fun a b => b.id < a.id :=
  List.pairwise_reverse.2 (List.pairwise_map.1 hn.executions)

theorem Numbered.newestOf (hn : engine.Numbered) (job : String) :
    (engine.newestOf job).Pairwise fun a b => b.id < a.id :=
  List.pairwise_reverse.2
    ((List.pairwise_map.1 hn.executions).sublist List.filter_sublist)

/-- In a numbered engine the executions of an instance are found. -/
theorem Numbered.newestAttempts (hn : engine.Numbered) {i : JobInstance}
    (hi : i ∈ engine.instances) :
    engine.newestAttempts i.job i.id
      = .ok (engine.attemptsOf i.id).reverse := by
  unfold Engine.newestAttempts
  rw [instance?_of_mem (nodup_of_rising hn.instances) hi]
  exact if_pos (beq_self_eq_true i.job)

-- ================================================================ instances

theorem Numbered.instancesOf (hn : engine.Numbered) (job : String) :
    (engine.instancesOf job).Pairwise fun a b => b.id < a.id :=
  List.pairwise_reverse.2
    ((List.pairwise_map.1 hn.instances).sublist List.filter_sublist)

@[simp] theorem mem_instancesOf {i : JobInstance} :
    i ∈ engine.instancesOf job ↔ i ∈ engine.instances ∧ i.job = job := by
  unfold Engine.instancesOf
  rw [List.mem_reverse, List.mem_filter, beq_iff_eq]

/-- The executions of an instance are executions of its job. -/
theorem Numbered.job_of_mem_attemptsOf (hn : engine.Numbered)
    {i : JobInstance} (hi : i ∈ engine.instances) {e : Execution}
    (he : e ∈ engine.attemptsOf i.id) : e.job = i.job := by
  obtain ⟨he, hid⟩ := mem_attemptsOf.1 he
  obtain ⟨j, hj, hid', hjob, -⟩ := hn.belongs e he
  rw [hid] at hid'
  have hij := List.inj_on_of_nodup_map (nodup_of_rising hn.instances) hi hj
    (Option.some.inj hid')
  rw [hij]
  exact hjob.symm

-- ===================================================================== jobs

/-- Without its repetitions a list in order is in strict order. -/
private theorem rising_eraseDups {names : List String}
    (h : names.Pairwise (· ≤ ·)) : names.eraseDups.Pairwise (· < ·) := by
  induction hn : names.length using Nat.strong_induction_on
    generalizing names with
  | _ n ih =>
      cases names with
      | nil => exact .nil
      | cons name rest =>
          obtain ⟨hfirst, hrest⟩ := List.pairwise_cons.1 h
          have hlength := List.length_filter_le (fun b => !b == name) rest
          rw [List.length_cons] at hn
          rw [List.eraseDups_cons, List.pairwise_cons]
          refine ⟨fun other hother => ?_,
            ih _ (by omega) (hrest.sublist List.filter_sublist) rfl⟩
          obtain ⟨hmem, hne⟩ :=
            List.mem_filter.1 (List.mem_eraseDups.1 hother)
          refine Std.lt_of_le_of_ne (hfirst other hmem) ?_
          rintro rfl
          simp at hne

/-- Jobs are listed by name, each once. -/
theorem rising_jobNames (engine : Engine) :
    engine.jobNames.Pairwise (· < ·) := by
  refine rising_eraseDups ?_
  refine (List.pairwise_mergeSort ?_ ?_ _).imp fun h => of_decide_eq_true h
  · intro a b c hab hbc
    exact decide_eq_true
      (String.le_trans (of_decide_eq_true hab) (of_decide_eq_true hbc))
  · intro a b
    rcases String.le_total a b with h | h
    · simp [h]
    · simp [h]

theorem nodup_jobNames (engine : Engine) : engine.jobNames.Nodup := by
  refine engine.rising_jobNames.imp ?_
  rintro name _ hlt rfl
  exact Std.lt_irrefl hlt

/-- A job is listed if it has a definition or an execution. -/
theorem mem_jobNames : job ∈ engine.jobNames
    ↔ (∃ d ∈ engine.definitions, d.name = job)
      ∨ ∃ e ∈ engine.executions, e.job = job := by
  unfold jobNames
  rw [List.mem_eraseDups, List.mem_mergeSort, List.mem_append, List.mem_map,
    List.mem_map]

/-- A job that is found is one of the definitions, under its name. -/
theorem mem_of_definition? {d : JobDefinition}
    (h : engine.definition? job = some d) :
    d ∈ engine.definitions ∧ d.name = job :=
  ⟨List.mem_reverse.1 (List.mem_of_find?_eq_some h),
    by simpa using List.find?_some h⟩

/-- Where only jobs with a definition are launched, these are the jobs. -/
theorem Tied.mem_jobNames (ht : engine.Tied) :
    job ∈ engine.jobNames ↔ ∃ d ∈ engine.definitions, d.name = job := by
  rw [Engine.mem_jobNames]
  refine or_iff_left_of_imp ?_
  rintro ⟨e, he, rfl⟩
  obtain ⟨d, hd, -⟩ := ht.launchable e he
  exact ⟨d, mem_of_definition? hd⟩

end BatchAdmin.Engine
