/-
How good an estimate of the progress of a step is.

In exact numbers an estimate is absent only where there is nothing to
estimate from, it is the whole exactly for what has ended, and below the
whole and not negative for what runs (`Estimate.Sound`). As a step goes
on its estimate does not fall: neither when it reads more nor as time
passes.

How much time has passed is taken from the calendar, which does not know
of all leap seconds: one that a reading falls into is counted at this
reading and forgotten at the next. Outside of leap seconds the time spent
never falls (`Instant.millisBetween_mono`), and so neither does the
estimate; from within one it can (`leapSecond_recedes`).
-/
import BatchAdmin.Proofs.Progress.Averages
import BatchAdmin.Proofs.Time.Lengths

namespace BatchAdmin

open Quantity StepHistory

-- ==================================================================== time

namespace Estimate

/-- The time that a step has been at work never falls outside of leap
seconds. -/
theorem timeSpent_mono {step : StepExecution} {now later : Instant}
    (hplain : ∀ start ∈ step.startTime, start.inLeap = false
      ∧ now.inLeap = false ∧ later.inLeap = false)
    (hle : now ≤ later) : timeSpent step now ≤ timeSpent step later := by
  unfold timeSpent
  cases hs : step.startTime with
  | none => exact Nat.le_refl 0
  | some start =>
      obtain ⟨hstart, hnow, hlater⟩ := hplain start hs
      exact Instant.millisBetween_mono hstart hnow hlater hle

-- ================================================================ fractions

/-- If there is a number there is another that is no less. -/
def NoLess (a b : Option ℚ) : Prop := ∀ x ∈ a, ∃ y ∈ b, x ≤ y

theorem NoLess.refl (a : Option ℚ) : NoLess a a :=
  fun x hx => ⟨x, hx, le_refl x⟩

/-- The most that a running step is estimated at. -/
theorem cap_rat : (cap : ℚ) = 99 / 100 := rfl

/-- A share of a mean, at most the cap. -/
def share (part : Nat) (mean : ℚ) : ℚ := min (part / mean) (99 / 100)

theorem share_nonneg (part : Nat) {mean : ℚ} (hm : 0 < mean) :
    0 ≤ share part mean :=
  le_min (by positivity) (by norm_num)

theorem share_le (part : Nat) (mean : ℚ) : share part mean ≤ 99 / 100 :=
  min_le_right _ _

/-- A greater part is no lesser share. -/
theorem share_mono {part more : Nat} {mean : ℚ} (hm : 0 < mean)
    (hle : part ≤ more) : share part mean ≤ share more mean := by
  have hdiv : (part : ℚ) / mean ≤ more / mean :=
    div_le_div_of_nonneg_right (by exact_mod_cast hle) hm.le
  exact min_le_min_right _ hdiv

variable {name : String} {steps : List StepExecution}
  {step : StepExecution} {now later : Instant}

/-- How much of a step's work is done, by the history of other steps. -/
def fraction (name : String) (steps : List StepExecution)
    (step : StepExecution) (now : Instant) : Option ℚ :=
  (Estimate.of step (.ofSteps name steps) now).fraction?

/-- The cases of an estimate: without samples there is none, what has
ended is done, and what runs is held against what was read or, if nothing
was, against the time that was taken, if any. -/
theorem fraction_cases (name : String) (steps : List StepExecution)
    (step : StepExecution) (now : Instant) :
    fraction name steps step now =
      if samples steps = [] then none
      else if step.status.isRunning = false then some 1
      else if 0 < average ((samples steps).map (·.2)) then
        some (share step.readCount (average ((samples steps).map (·.2))))
      else if 0 < average ((samples steps).map (·.1)) then
        some (share (timeSpent step now)
          (average ((samples steps).map (·.1))))
      else none := by
  obtain ⟨hcount, hdurations, hreads⟩ := averages_ofSteps name steps
  have hnone : ((ofSteps (α := ℚ) name steps).count == 0) = true
      ↔ samples steps = [] := by
    rw [hcount, beq_iff_eq, List.length_eq_zero_iff]
  unfold fraction Estimate.of
  by_cases hs : samples steps = []
  · rw [if_pos hs, if_pos (hnone.2 hs)]
    rfl
  rw [if_neg hs, if_neg (mt hnone.1 hs)]
  cases hr : step.status.isRunning with
  | false => rfl
  | true =>
      rw [hreads, hdurations]
      by_cases hread : 0 < average ((samples steps).map (·.2))
      · simp [hread, fraction?, share, cap_rat]
      · by_cases htime : 0 < average ((samples steps).map (·.1))
        · simp [hread, htime, fraction?, share, cap_rat]
        · simp [hread, htime, fraction?]

-- ================================================================ soundness

/-- What can be relied on in an estimate. -/
structure Sound (name : String) (steps : List StepExecution)
    (step : StepExecution) (now : Instant) : Prop where
  /-- It is absent only without a history, or while the step runs and the
  history shows neither items nor time. -/
  absent : fraction name steps step now = none
    ↔ samples steps = [] ∨ step.status.isRunning = true
      ∧ ∀ s ∈ samples steps, s.1 = 0 ∧ s.2 = 0
  /-- It is the whole exactly for what has ended. -/
  whole : fraction name steps step now = some 1
    ↔ samples steps ≠ [] ∧ step.status.isRunning = false
  /-- Otherwise it is below the whole and not negative. -/
  between : ∀ x ∈ fraction name steps step now,
    x ≠ 1 → 0 ≤ x ∧ x ≤ 99 / 100
  /-- It does not fall as more is read. -/
  reads : ∀ more, step.readCount ≤ more →
    NoLess (fraction name steps step now)
      (fraction name steps { step with readCount := more } now)
  /-- It does not fall as time passes outside of leap seconds; without a
  start these do not matter. -/
  time : ∀ later, now ≤ later →
    (∀ start ∈ step.startTime, start.inLeap = false
      ∧ now.inLeap = false ∧ later.inLeap = false) →
    NoLess (fraction name steps step now) (fraction name steps step later)
  /-- How long the step will take is told exactly if there is a history,
  which is what the count of a history says. -/
  expected : (ofSteps (α := ℚ) name steps).expected?.isSome = true
    ↔ samples steps ≠ []
  count : (ofSteps (α := ℚ) name steps).count = (samples steps).length
  /-- In checked numbers the history and the estimate are the same, so
  nothing was divided by zero. -/
  history : ofSteps name steps = (ofSteps (α := ℚ) name steps).checked
  checked : (Estimate.of step (.ofSteps (α := Checked) name steps)
      now).fraction? = (fraction name steps step now).map .number

/-- The estimate of a running step with a history that shows something is
a share of a mean. -/
theorem fraction_running (hrun : step.status.isRunning = true) :
    fraction name steps step now = none
      ∨ ∃ part mean, 0 < mean
        ∧ fraction name steps step now = some (share part mean) := by
  rw [fraction_cases, hrun]
  by_cases hs : samples steps = []
  · exact .inl (if_pos hs)
  rw [if_neg hs, if_neg Bool.noConfusion]
  split
  · next h => exact .inr ⟨_, _, h, rfl⟩
  split
  · next h => exact .inr ⟨_, _, h, rfl⟩
  · exact .inl rfl

/-- An estimate is absent if its history shows nothing. -/
theorem fraction_eq_none :
    fraction name steps step now = none
      ↔ samples steps = [] ∨ step.status.isRunning = true
        ∧ ∀ s ∈ samples steps, s.1 = 0 ∧ s.2 = 0 := by
  have hzero : (∀ s ∈ samples steps, s.1 = 0 ∧ s.2 = 0)
      ↔ ¬0 < average ((samples steps).map (·.2))
        ∧ ¬0 < average ((samples steps).map (·.1)) := by
    rw [average_not_pos_iff, average_not_pos_iff, List.forall_mem_map,
      List.forall_mem_map]
    exact ⟨fun h => ⟨fun s hs => (h s hs).2, fun s hs => (h s hs).1⟩,
      fun h s hs => ⟨h.2 s hs, h.1 s hs⟩⟩
  rw [fraction_cases, hzero]
  by_cases hs : samples steps = []
  · simp [hs]
  cases hr : step.status.isRunning with
  | false => simp [hs]
  | true =>
      by_cases hread : 0 < average ((samples steps).map (·.2))
      · simp [hs, hread]
      · by_cases htime : 0 < average ((samples steps).map (·.1))
        · simp [hs, hread, htime]
        · simp [hs, hread, htime]

/-- An estimate is the whole if the step has ended. -/
theorem fraction_eq_one :
    fraction name steps step now = some 1
      ↔ samples steps ≠ [] ∧ step.status.isRunning = false := by
  cases hr : step.status.isRunning with
  | false =>
      rw [fraction_cases, hr]
      by_cases hs : samples steps = []
      · simp [hs]
      · simp [hs]
  | true =>
      have hne : fraction name steps step now ≠ some 1 := by
        intro h
        rcases fraction_running hr with hnone | ⟨part, mean, -, hsome⟩
        · rw [hnone] at h
          cases h
        · rw [hsome] at h
          have hle := share_le part mean
          rw [Option.some.inj h] at hle
          norm_num at hle
      simp [hne]

/-- What is held against the same mean is no less for a greater part. -/
theorem noLess_share {a b : Nat} {mean : ℚ} (hm : 0 < mean)
    (hle : a ≤ b) : NoLess (some (share a mean)) (some (share b mean)) := by
  intro x hx
  obtain rfl := Option.some.inj hx
  exact ⟨_, rfl, share_mono hm hle⟩

/-- Nothing is lost by reading more. -/
theorem noLess_reads {more : Nat} (hle : step.readCount ≤ more) :
    NoLess (fraction name steps step now)
      (fraction name steps { step with readCount := more } now) := by
  rw [fraction_cases, fraction_cases]
  dsimp only
  split
  · exact NoLess.refl _
  split
  · exact NoLess.refl _
  split
  · next h => exact noLess_share h hle
  · exact NoLess.refl _

/-- Nothing is lost by working longer. -/
theorem noLess_time (hle : timeSpent step now ≤ timeSpent step later) :
    NoLess (fraction name steps step now)
      (fraction name steps step later) := by
  rw [fraction_cases, fraction_cases]
  split
  · exact NoLess.refl _
  split
  · exact NoLess.refl _
  split
  · exact NoLess.refl _
  split
  · next h => exact noLess_share h hle
  · exact NoLess.refl _

-- =========================================================== checked numbers

/-- The cap in checked numbers. -/
private theorem cap_checked : (cap : Checked) = .number cap :=
  Checked.div_number (by norm_num)

/-- The lesser of two checked numbers. -/
private theorem lesser_number (x y : ℚ) :
    lesser (Checked.number x) (.number y) = .number (lesser x y) := by
  unfold lesser
  show (if decide (y < x) = true then Checked.number y else .number x)
    = .number (if decide (y < x) = true then y else x)
  split <;> rfl

/-- An estimate divides only by what is positive. -/
theorem fraction_checked (step : StepExecution) (h : StepHistory ℚ)
    (now : Instant) :
    (Estimate.of step h.checked now).fraction?
      = (Estimate.of step h now).fraction?.map .number := by
  have hdiv : ∀ (part : Nat) {mean : ℚ}, 0 < mean →
      lesser (ofCount part / .number mean) (cap : Checked)
        = .number (lesser (ofCount part / mean) cap) := by
    intro part mean hm
    rw [cap_checked, ← lesser_number]
    exact congrArg (lesser · _) (Checked.div_number hm.ne')
  have hpositive : ∀ x : ℚ,
      isPositive (Checked.number x) = decide (0 < x) := fun _ => rfl
  unfold Estimate.of StepHistory.checked
  dsimp only
  cases hcount : h.count == 0 with
  | true => rfl
  | false =>
      cases hrun : step.status.isRunning with
      | false => rfl
      | true =>
          simp only [hpositive, isPositive_rat]
          by_cases hread : 0 < h.meanReads
          · simp [hread, hdiv, fraction?]
          · by_cases htime : 0 < h.meanDuration
            · simp [hread, htime, hdiv, fraction?]
            · simp [hread, htime, fraction?]

/-- What is not the whole is a share. -/
theorem fraction_between {x : ℚ}
    (hx : fraction name steps step now = some x) (hne : x ≠ 1) :
    0 ≤ x ∧ x ≤ 99 / 100 := by
  cases hr : step.status.isRunning with
  | false =>
      have hs : samples steps ≠ [] := by
        intro hs
        rw [fraction_eq_none.2 (.inl hs)] at hx
        cases hx
      rw [fraction_eq_one.2 ⟨hs, hr⟩] at hx
      exact absurd (Option.some.inj hx).symm hne
  | true =>
      rcases fraction_running hr with hnone | ⟨part, mean, hm, hsome⟩
      · rw [hnone] at hx
        cases hx
      · rw [hsome] at hx
        obtain rfl := Option.some.inj hx
        exact ⟨share_nonneg part hm, share_le part mean⟩

/-- Every estimate is sound. -/
theorem estimate_sound (name : String) (steps : List StepExecution)
    (step : StepExecution) (now : Instant) :
    Sound name steps step now where
  absent := fraction_eq_none
  whole := fraction_eq_one
  between := fun _ => fraction_between
  reads := fun _ => noLess_reads
  time := fun _ hle hplain => noLess_time (timeSpent_mono hplain hle)
  expected := by
    unfold expected?
    rw [count_ofSteps_samples]
    cases samples steps with
    | nil => simp
    | cons _ _ => simp
  count := count_ofSteps_samples name steps
  history := ofSteps_checked name steps
  checked := by
    rw [ofSteps_checked]
    exact fraction_checked step _ now

-- ------------------------------------------------------------- a leap second

/-- An execution of a step that took a hundred seconds and read
nothing. -/
def slowRun : StepExecution :=
  { id := 1, name := "read", executionId := 1, status := .completed
    startTime := some ⟨0, 0⟩, endTime := some ⟨100, 0⟩ }

/-- One that was started later and still runs. -/
def secondRun : StepExecution :=
  { id := 2, name := "read", executionId := 2, status := .started
    startTime := some ⟨600, 0⟩ }

/-- Its estimate is the time since then, held against the hundred
seconds. -/
private theorem fraction_secondRun (now : Instant) :
    fraction "read" [slowRun] secondRun now
      = some (share (timeSpent secondRun now) 100000) := by
  have hsamples : samples [slowRun] = [(100000, 0)] := by decide
  have hrun : secondRun.status.isRunning = true := rfl
  rw [fraction_cases, hsamples]
  norm_num [average, hrun]

/-- A reading a minute later is no less than one after half of it. -/
theorem secondRun_goesOn :
    (⟨630, 0⟩ : Instant) ≤ ⟨660, 0⟩
      ∧ fraction "read" [slowRun] secondRun ⟨630, 0⟩ = some (3 / 10)
      ∧ NoLess (fraction "read" [slowRun] secondRun ⟨630, 0⟩)
          (fraction "read" [slowRun] secondRun ⟨660, 0⟩) := by
  have hle : (⟨630, 0⟩ : Instant) ≤ ⟨660, 0⟩ := by decide
  have hspent : timeSpent secondRun ⟨630, 0⟩ = 30000 := by decide
  refine ⟨hle, ?_, (estimate_sound "read" [slowRun] secondRun
    ⟨630, 0⟩).time ⟨660, 0⟩ hle (by decide)⟩
  rw [fraction_secondRun, hspent]
  norm_num [share]

/-- In the middle of a leap second sixty seconds and a half are counted,
and at its end sixty: the estimate falls as time passes. -/
theorem leapSecond_recedes :
    (⟨659, 1500000000⟩ : Instant) ≤ ⟨660, 0⟩
      ∧ secondRun.status.isRunning = true
      ∧ (ofSteps (α := ℚ) "read" [slowRun]).meanReads = 0
      ∧ fraction "read" [slowRun] secondRun ⟨659, 1500000000⟩
          = some (121 / 200)
      ∧ fraction "read" [slowRun] secondRun ⟨660, 0⟩ = some (3 / 5)
      ∧ ¬NoLess (fraction "read" [slowRun] secondRun ⟨659, 1500000000⟩)
          (fraction "read" [slowRun] secondRun ⟨660, 0⟩) := by
  have hwithin : timeSpent secondRun ⟨659, 1500000000⟩ = 60500 := by decide
  have hbehind : timeSpent secondRun ⟨660, 0⟩ = 60000 := by decide
  have hbefore : fraction "read" [slowRun] secondRun ⟨659, 1500000000⟩
      = some (121 / 200) := by
    rw [fraction_secondRun, hwithin]
    norm_num [share]
  have hafter : fraction "read" [slowRun] secondRun ⟨660, 0⟩
      = some (3 / 5) := by
    rw [fraction_secondRun, hbehind]
    norm_num [share]
  have hreads : (ofSteps (α := ℚ) "read" [slowRun]).meanReads = 0 := by
    have hsamples : samples [slowRun] = [(100000, 0)] := by decide
    rw [(averages_ofSteps _ _).reads, hsamples]
    norm_num [average]
  refine ⟨by decide, rfl, hreads, hbefore, hafter, fun h => ?_⟩
  obtain ⟨y, hy, hle⟩ := h _ hbefore
  rw [hafter] at hy
  obtain rfl := Option.some.inj hy
  norm_num at hle

end Estimate

end BatchAdmin
