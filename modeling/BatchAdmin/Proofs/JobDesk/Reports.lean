/-
What the job desk answers, in terms of what the engine keeps.

An instance is told with all its executions, newest first (`told`), whether
it is asked for by its id or found in a listing of its job, and the list of
its executions alone is the same list. In a numbered engine none of these
questions fails for an instance that is there.
-/
import BatchAdmin.JobDesk.Queries
import BatchAdmin.Proofs.Engine.Listing
import BatchAdmin.Proofs.Paging.Windows

namespace BatchAdmin.JobDesk

open Engine (window)

variable {engine : Engine} {now : Instant} {i : JobInstance}

/-- A window as long as the list shows the whole list. -/
theorem window_all {α : Type} {limit : Nat} {xs : List α}
    (h : xs.length ≤ limit) : window 0 limit xs = xs := by
  unfold window
  rw [List.drop_zero, List.take_of_length_le h]

/-- What is told of an instance. -/
def told (engine : Engine) (now : Instant) (i : JobInstance) :
    InstanceReport :=
  .of now i (engine.attemptsOf i.id).reverse

theorem report_eq (hn : engine.Numbered) (hi : i ∈ engine.instances) :
    report engine now i = .ok (told engine now i) := by
  unfold report
  rw [hn.newestAttempts hi]
  rfl

/-- Where each has an answer, all have. -/
theorem mapM_ok {α β : Type} {f : α → Answer β} {h : α → β} {xs : List α}
    (hf : ∀ x ∈ xs, f x = .ok (h x)) : xs.mapM f = .ok (xs.map h) := by
  induction xs with
  | nil => rfl
  | cons x rest ih =>
      obtain ⟨hx, hrest⟩ := List.forall_mem_cons.1 hf
      rw [List.mapM_cons, hx, ih hrest]
      rfl

/-- The executions of all instances of a window are found. -/
theorem instances_eq (hn : engine.Numbered) (job : String)
    (offset limit : Nat) :
    instances engine now job offset limit
      = .ok (window offset limit
          ((engine.instancesOf job).map (told engine now))) := by
  unfold instances
  rw [← Page.map_window]
  refine mapM_ok fun i hi => report_eq hn ?_
  have hmem : i ∈ engine.instancesOf job :=
    List.mem_of_mem_drop (List.mem_of_mem_take hi)
  exact (Engine.mem_instancesOf.1 hmem).1

theorem findInstance_eq (hn : engine.Numbered) (hi : i ∈ engine.instances) :
    findInstance engine now i.id = .ok (told engine now i) := by
  unfold findInstance Engine.findInstance
  rw [Engine.instance?_of_mem (Engine.nodup_of_rising hn.instances) hi]
  exact report_eq hn hi

/-- What is told under an id is told of an instance that is there. -/
theorem told_of_findInstance (hn : engine.Numbered) {id : Int}
    {x : InstanceReport} (h : findInstance engine now id = .ok x) :
    ∃ i ∈ engine.instances, x = told engine now i := by
  cases hi : engine.instance? id with
  | none =>
      unfold findInstance Engine.findInstance at h
      rw [hi] at h
      cases h
  | some i =>
      have hmem : i ∈ engine.instances := List.mem_of_find?_eq_some hi
      have hid : i.id = id := by simpa using List.find?_some hi
      rw [← hid, findInstance_eq hn hmem] at h
      exact ⟨i, hmem, (Except.ok.inj h).symm⟩

/-- The executions of an instance are told alike whether its job is named
or left out. -/
theorem executionsOfInstance_eq (hn : engine.Numbered)
    (hi : i ∈ engine.instances) {job : Option String}
    (hjob : ∀ name ∈ job, name = i.job) :
    executionsOfInstance engine now job i.id
      = .ok (told engine now i).executions := by
  have hof : jobOf engine job i.id = .ok i.job := by
    cases job with
    | some name => exact congrArg Except.ok (hjob name rfl)
    | none =>
        unfold jobOf Engine.findInstance
        rw [Engine.instance?_of_mem (Engine.nodup_of_rising hn.instances) hi]
        rfl
  unfold executionsOfInstance
  rw [hof]
  dsimp only [bind, Except.bind]
  rw [hn.newestAttempts hi]
  rfl

end BatchAdmin.JobDesk
