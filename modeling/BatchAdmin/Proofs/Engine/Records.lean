/-
The engine's records under their ids: what a look-up finds and what a
record put back leaves of the others.

Executions in the engine and steps in an execution are kept in the same
way: a look-up takes the first record with the id, and putting one back
replaces every record with its id. Both are stated once for a list under
a key and then read for each. A look-up finds a given member only where
no two share an id; that the engine's ids are such is proved beside its
other invariants (Numbering), so it is a hypothesis here.
-/
import BatchAdmin.Engine.Steps
import Mathlib.Data.List.Nodup

namespace BatchAdmin.Engine

-- ========================================================= a list under keys

section Keyed

variable {α : Type} {key : α → Int}

/-- What a look-up finds is there, under the key asked for. -/
private theorem mem_of_find_key {xs : List α} {k : Int} {x : α}
    (h : xs.find? (fun x => key x == k) = some x) :
    x ∈ xs ∧ key x = k :=
  ⟨List.mem_of_find?_eq_some h, by simpa using List.find?_some h⟩

/-- Where keys tell members apart, a member is what its key finds. -/
private theorem find_key_of_mem {xs : List α} {x : α}
    (hu : (xs.map key).Nodup) (hx : x ∈ xs) :
    xs.find? (fun y => key y == key x) = some x := by
  cases hf : xs.find? (fun y => key y == key x) with
  | none =>
      have hno := List.find?_eq_none.1 hf x hx
      simp at hno
  | some y =>
      obtain ⟨hy, hk⟩ := mem_of_find_key hf
      rw [List.inj_on_of_nodup_map hu hy hx hk]

/-- Putting a record back changes no key. -/
private theorem keys_replace (xs : List α) (y : α) :
    (xs.map fun x => if key x = key y then y else x).map key
      = xs.map key := by
  rw [List.map_map]
  refine List.map_congr_left fun x _ => ?_
  by_cases hk : key x = key y
  · simp [hk]
  · simp [hk]

/-- The members after a record was put back: the others, and the record
itself if there was one to replace. -/
private theorem mem_replace {xs : List α} {y z : α} :
    (z ∈ xs.map fun x => if key x = key y then y else x)
      ↔ (z ∈ xs ∧ key z ≠ key y) ∨ (z = y ∧ ∃ x ∈ xs, key x = key y) := by
  rw [List.mem_map]
  constructor
  · rintro ⟨x, hx, rfl⟩
    by_cases hk : key x = key y
    · rw [if_pos hk]
      exact .inr ⟨rfl, x, hx, hk⟩
    · rw [if_neg hk]
      exact .inl ⟨hx, hk⟩
  · rintro (⟨hz, hk⟩ | ⟨rfl, x, hx, hk⟩)
    · exact ⟨z, hz, if_neg hk⟩
    · exact ⟨x, hx, if_pos hk⟩

/-- A sum over the members moves by as much as the record put back
does. -/
private theorem sum_replace {xs : List α} {y z : α} (f : α → Nat)
    (hu : (xs.map key).Nodup) (hz : z ∈ xs) (hk : key z = key y) :
    (xs.map fun x => if key x = key y then y else x).foldr
        (fun x n => f x + n) 0 + f z
      = xs.foldr (fun x n => f x + n) 0 + f y := by
  induction xs with
  | nil => cases hz
  | cons x rest ih =>
      obtain ⟨hx, hrest⟩ := List.nodup_cons.1 hu
      simp only [List.map_cons, List.foldr_cons]
      rcases List.mem_cons.1 hz with rfl | hz
      · -- the first is the one replaced, and no other has its key
        have hsame : (rest.map fun x => if key x = key y then y else x)
            = rest := by
          refine (List.map_congr_left fun x' hx' => ?_).trans rest.map_id
          refine if_neg fun hk' => hx ?_
          rw [hk, ← hk']
          exact List.mem_map_of_mem hx'
        rw [if_pos hk, hsame]
        omega
      · have hne : key x ≠ key y := by
          intro hk'
          refine hx ?_
          rw [hk', ← hk]
          exact List.mem_map_of_mem hz
        rw [if_neg hne]
        have hsum := ih hrest hz
        omega

end Keyed

-- ============================================================== executions

variable {engine : Engine}

/-- What is found under an id is there and has the id. -/
theorem mem_of_execution? {id : Int} {e : Execution}
    (h : engine.execution? id = some e) :
    e ∈ engine.executions ∧ e.id = id :=
  mem_of_find_key h

/-- An execution is what its id finds. -/
theorem execution?_of_mem (hu : (engine.executions.map (·.id)).Nodup)
    {e : Execution} (he : e ∈ engine.executions) :
    engine.execution? e.id = some e :=
  find_key_of_mem hu he

/-- Nothing is found under an id that no execution has. -/
theorem execution?_eq_none {id : Int} :
    engine.execution? id = none ↔ ∀ e ∈ engine.executions, e.id ≠ id := by
  unfold execution?
  rw [List.find?_eq_none]
  simp

/-- Putting an execution back changes no id. -/
@[simp] theorem ids_put (e : Execution) :
    (engine.put e).executions.map (·.id)
      = engine.executions.map (·.id) :=
  keys_replace engine.executions e

/-- The executions after one was put back. -/
theorem mem_put {e x : Execution} :
    x ∈ (engine.put e).executions
      ↔ (x ∈ engine.executions ∧ x.id ≠ e.id)
        ∨ (x = e ∧ ∃ y ∈ engine.executions, y.id = e.id) :=
  mem_replace

/-- What is found under the id of an execution that was put back. -/
theorem execution?_put_self {e y : Execution}
    (h : engine.execution? e.id = some y) :
    (engine.put e).execution? e.id = some e := by
  obtain ⟨hy, hid⟩ := mem_of_execution? h
  unfold execution? put
  rw [List.find?_map]
  have hcomp : ((fun x : Execution => x.id == e.id)
      ∘ fun x => if x.id = e.id then e else x)
      = fun x => x.id == e.id := by
    funext x
    by_cases hx : x.id = e.id
    · simp [hx]
    · simp [hx]
  rw [hcomp]
  unfold execution? at h
  rw [h]
  simp [hid]

/-- Putting an execution back leaves what is found under another id. -/
theorem execution?_put_of_ne {e : Execution} {id : Int} (hid : id ≠ e.id) :
    (engine.put e).execution? id = engine.execution? id := by
  unfold execution? put
  induction engine.executions with
  | nil => rfl
  | cons x rest ih =>
      rw [List.map_cons, List.find?_cons, List.find?_cons, ih]
      by_cases hx : x.id = e.id
      · have hne : ¬x.id = id := fun h => hid (h.symm.trans hx)
        have hne' : ¬e.id = id := fun h => hid h.symm
        rw [if_pos hx]
        simp only [beq_eq_false_iff_ne.2 hne, beq_eq_false_iff_ne.2 hne']
      · rw [if_neg hx]

/-- Of two executions put back under one id the later counts. -/
theorem put_put {e e' : Execution} (h : e'.id = e.id) :
    (engine.put e).put e' = engine.put e' := by
  unfold put
  simp only [List.map_map]
  congr 1
  refine List.map_congr_left fun x _ => ?_
  by_cases hx : x.id = e.id
  · simp [hx, h]
  · simp [hx, h]

-- =============================================================== instances

/-- An instance is what its id finds. -/
theorem instance?_of_mem (hu : (engine.instances.map (·.id)).Nodup)
    {i : JobInstance} (hi : i ∈ engine.instances) :
    engine.instance? i.id = some i :=
  find_key_of_mem hu hi

-- =================================================================== steps

variable {e : Execution}

/-- What is found under an id is there and has the id. -/
theorem mem_of_step? {id : Int} {s : StepExecution}
    (h : e.step? id = some s) : s ∈ e.steps ∧ s.id = id :=
  mem_of_find_key h

/-- A step is what its id finds. -/
theorem step?_of_mem (hu : (e.steps.map (·.id)).Nodup)
    {s : StepExecution} (hs : s ∈ e.steps) : e.step? s.id = some s :=
  find_key_of_mem hu hs

/-- Putting a step back changes no id. -/
@[simp] theorem stepIds_putStep (s : StepExecution) :
    (e.putStep s).steps.map (·.id) = e.steps.map (·.id) :=
  keys_replace e.steps s

/-- A sum over the steps moves by as much as the step put back does. -/
theorem sum_putStep (f : StepExecution → Nat) {s : StepExecution}
    (s' : StepExecution) (hu : (e.steps.map (·.id)).Nodup)
    (hs : s ∈ e.steps) (hid : s.id = s'.id) :
    (e.putStep s').steps.foldr (fun x n => f x + n) 0 + f s
      = e.steps.foldr (fun x n => f x + n) 0 + f s' :=
  sum_replace f hu hs hid

/-- The steps after one was put back. -/
theorem mem_putStep {s x : StepExecution} :
    x ∈ (e.putStep s).steps
      ↔ (x ∈ e.steps ∧ x.id ≠ s.id)
        ∨ (x = s ∧ ∃ y ∈ e.steps, y.id = s.id) :=
  mem_replace

/-- What holds of the steps and of the one put back holds afterwards. -/
theorem forall_putStep {P : StepExecution → Prop} {s : StepExecution}
    (hall : ∀ x ∈ e.steps, P x) (hs : P s) :
    ∀ x ∈ (e.putStep s).steps, P x := by
  intro x hx
  rcases mem_putStep.1 hx with ⟨hx, -⟩ | ⟨rfl, -⟩
  · exact hall x hx
  · exact hs

/-- What holds of the steps that have ended and of the ends of the others
holds when the execution is ended. -/
theorem forall_closed {P : StepExecution → Prop} {status : Status}
    {exit : ExitStatus} {now : Instant}
    (hended : ∀ s ∈ e.steps, s.status.isRunning = false → P s)
    (hrun : ∀ s ∈ e.steps, s.status.isRunning = true →
      P (ended s status now)) :
    ∀ s ∈ (closed e status exit now).steps, P s := by
  intro s hs
  obtain ⟨s₀, hs₀, rfl⟩ := List.mem_map.1 hs
  cases hr : s₀.status.isRunning with
  | true => exact hrun s₀ hs₀ hr
  | false => exact hended s₀ hs₀ hr

end BatchAdmin.Engine
