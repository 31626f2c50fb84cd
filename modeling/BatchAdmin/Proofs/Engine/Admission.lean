/-
When a launch or a restart goes ahead.

Both pass a row of checks in a fixed order; what is said here is what a
caller who got through knows, and that nothing more is asked for. The
two differ in what they look at: a launch looks at every execution of
the job (unless executions of it may overlap) and at the instance it
would join, a restart at the instance alone.
-/
import BatchAdmin.Engine.Control

namespace BatchAdmin.Engine

variable {engine : Engine}

-- =============================================================== membership

@[simp] theorem mem_executionsOf {job : String} {e : Execution} :
    e ∈ engine.executionsOf job ↔ e ∈ engine.executions ∧ e.job = job := by
  unfold executionsOf
  rw [List.mem_filter, beq_iff_eq]

@[simp] theorem mem_attemptsOf {id : Int} {e : Execution} :
    e ∈ engine.attemptsOf id
      ↔ e ∈ engine.executions ∧ e.instanceId = some id := by
  unfold attemptsOf
  rw [List.mem_filter, beq_iff_eq]

/-- An instance that is found is there, of the job and with the
parameters asked for. -/
theorem mem_of_instanceFor? {job : String} {parameters : Dict}
    {i : JobInstance} (h : engine.instanceFor? job parameters = some i) :
    i ∈ engine.instances ∧ i.job = job ∧ i.identifying = parameters := by
  refine ⟨List.mem_of_find?_eq_some h, ?_⟩
  have hp := List.find?_some h
  rw [Bool.and_eq_true, beq_iff_eq, decide_eq_true_eq] at hp
  exact hp

-- =============================================================== the checks

/-- An instance can be run again exactly if no attempt at it runs or has
completed. -/
theorem unfinished_eq_ok {id : Int} {job : String} :
    engine.unfinished id job = .ok ()
      ↔ ∀ e ∈ engine.attemptsOf id,
          e.isRunning = false ∧ e.status ≠ .completed := by
  unfold unfinished
  dsimp only
  constructor
  · intro h e he
    split at h
    case isTrue => cases h
    case isFalse hrun =>
      split at h
      case isTrue => cases h
      case isFalse hdone =>
        rw [List.any_eq_true] at hrun hdone
        constructor
        · cases hr : e.isRunning with
          | false => rfl
          | true => exact absurd ⟨e, he, hr⟩ hrun
        · intro hc
          exact hdone ⟨e, he, by simpa using hc⟩
  · intro h
    rw [if_neg, if_neg]
    · rw [List.any_eq_true]
      rintro ⟨e, he, hc⟩
      exact (h e he).2 (by simpa using hc)
    · rw [List.any_eq_true]
      rintro ⟨e, he, hr⟩
      rw [(h e he).1] at hr
      cases hr

/-- What a job must be like to be launched with these parameters. -/
theorem launchable_eq_ok {job : String} {parameters : Dict}
    {d : JobDefinition} :
    engine.launchable job parameters = .ok d
      ↔ engine.definition? job = some d ∧ d.launchable = true
        ∧ missing d parameters = []
        ∧ (d.concurrent = false →
            ∀ e ∈ engine.executionsOf job, e.isRunning = false) := by
  unfold launchable
  cases hd : engine.definition? job with
  | none => simp
  | some d' =>
      simp only [Option.some.injEq]
      split
      next hl =>
        -- not launchable at all
        constructor
        · intro h; cases h
        · rintro ⟨rfl, hl', -⟩
          rw [hl'] at hl
          cases hl
      next hl =>
      split
      next hm =>
        constructor
        · intro h; cases h
        · rintro ⟨rfl, -, hm', -⟩
          exact absurd hm' hm
      next hm =>
      split
      next hc =>
        rw [Bool.and_eq_true, Bool.not_eq_true', List.any_eq_true] at hc
        obtain ⟨hcon, e, he, hr⟩ := hc
        constructor
        · intro h; cases h
        · rintro ⟨rfl, -, -, hidle⟩
          rw [hidle hcon e he] at hr
          cases hr
      next hc =>
        constructor
        · intro h
          injection h with h
          subst h
          refine ⟨rfl, by simpa using hl, by simpa using hm, ?_⟩
          intro hcon e he
          simp only [hcon, Bool.not_false, Bool.true_and,
            List.any_eq_true, not_exists, not_and, Bool.not_eq_true] at hc
          exact hc e he
        · rintro ⟨rfl, -⟩
          rfl

/-- What an execution must be like to be restarted. -/
theorem restartable_eq_ok {id i : Int} {e : Execution}
    {d : JobDefinition} :
    engine.restartable id = .ok (e, i, d)
      ↔ engine.execution? id = some e ∧ e.instanceId = some i
        ∧ engine.definition? e.job = some d ∧ d.restartable = true
        ∧ (e.status = .stopped ∨ e.status = .failed)
        ∧ engine.unfinished i e.job = .ok () := by
  unfold restartable
  cases he : engine.execution? id with
  | none => simp
  | some x =>
  dsimp only
  cases hi : x.instanceId with
  | none =>
      constructor
      · intro h; cases h
      · rintro ⟨hx, hi', -⟩
        injection hx with hx
        rw [← hx, hi] at hi'
        cases hi'
  | some i' =>
  cases hd : engine.definition? x.job with
  | none =>
      constructor
      · intro h; cases h
      · rintro ⟨hx, -, hd', -⟩
        injection hx with hx
        rw [← hx, hd] at hd'
        cases hd'
  | some d' =>
      constructor
      · intro h
        dsimp only at h
        split at h
        next => cases h
        next hr =>
        split at h
        next => cases h
        next hrun =>
        split at h
        next => cases h
        next hst =>
        split at h
        next => cases h
        next hu =>
          simp only [Except.ok.injEq, Prod.mk.injEq] at h
          obtain ⟨rfl, rfl, rfl⟩ := h
          refine ⟨rfl, hi, hd, by simpa using hr, ?_, hu⟩
          by_cases hs : x.status = .stopped
          · exact .inl hs
          · refine .inr (Classical.byContradiction fun hf => ?_)
            exact hst ⟨hs, hf⟩
      · rintro ⟨hx, hi', hd', hr, hst, hu⟩
        injection hx with hx
        subst hx
        rw [hi] at hi'
        rw [hd] at hd'
        injection hi' with hi'
        injection hd' with hd'
        subst hi'
        subst hd'
        have hrun : x.isRunning = false := by
          unfold Execution.isRunning
          rcases hst with hst | hst <;> rw [hst] <;> rfl
        have hends : ¬(x.status ≠ .stopped ∧ x.status ≠ .failed) := by
          rintro ⟨hs, hf⟩
          rcases hst with hst | hst
          · exact hs hst
          · exact hf hst
        dsimp only
        rw [hu, hr, hrun, if_neg hends]
        rfl

end BatchAdmin.Engine
