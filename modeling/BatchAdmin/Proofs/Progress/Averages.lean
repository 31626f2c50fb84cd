/-
Histories in exact numbers.

The rules of the statistics are written for any numbers. In all of them a
history is made from its samples one after another, and what one more sample
keeps holds of it (`ofSteps_induction`). Here they are read in the rationals,
where a history holds the averages of its samples (`averages_ofSteps`), and
in checked rationals, where a division by zero leaves nothing to go on with:
that a history is the same in both (`ofSteps_checked`) says that none was
divided by.
-/
import BatchAdmin.Progress.Estimate
import Mathlib.Algebra.Order.Field.Rat
import Mathlib.Algebra.Order.Field.Basic
import Mathlib.Data.Rat.Cast.Order
import Mathlib.Tactic.Positivity
import Mathlib.Tactic.FieldSimp
import Mathlib.Tactic.NormNum

namespace BatchAdmin

open Quantity

-- ============================================================= exact numbers

instance : Quantity ℚ where
  ofCount n := n
  less a b := decide (a < b)

namespace Quantity

@[simp] theorem ofCount_rat (n : Nat) : (ofCount n : ℚ) = n := rfl

@[simp] theorem isPositive_rat (x : ℚ) : isPositive x = decide (0 < x) :=
  rfl

@[simp] theorem lesser_rat (x y : ℚ) : lesser x y = min x y := by
  unfold lesser
  show (if decide (y < x) = true then y else x) = min x y
  by_cases h : y < x
  · rw [if_pos (decide_eq_true h), min_eq_right h.le]
  · rw [if_neg (by simpa using h), min_eq_left (not_lt.1 h)]

end Quantity

-- ------------------------------------------------------------------ averages

/-- The average of counts; there is none of no counts, and zero is put for
it. -/
def average (xs : List Nat) : ℚ := (xs.sum : ℚ) / xs.length

@[simp] theorem average_nil : average [] = 0 := by simp [average]

/-- An average is positive if it is of something positive. -/
theorem average_pos_iff {xs : List Nat} :
    0 < average xs ↔ ∃ x ∈ xs, 0 < x := by
  constructor
  · intro h
    by_contra hno
    have hzero : ∀ x ∈ xs, x = 0 := fun x hx =>
      Nat.eq_zero_of_not_pos fun hpos => hno ⟨x, hx, hpos⟩
    have hsum : xs.sum = 0 := List.sum_eq_zero hzero
    unfold average at h
    rw [hsum] at h
    simp at h
  · rintro ⟨x, hx, hpos⟩
    have hsum : 0 < xs.sum := Nat.lt_of_lt_of_le hpos (List.le_sum_of_mem hx)
    have hlength : 0 < xs.length := List.length_pos_of_mem hx
    unfold average
    positivity

/-- It is not if all is zero. -/
theorem average_not_pos_iff {xs : List Nat} :
    ¬0 < average xs ↔ ∀ x ∈ xs, x = 0 := by
  rw [average_pos_iff]
  simp

/-- Each average is made from the one before it and the last count. -/
theorem meanWith_average (xs : List Nat) (x : Nat) :
    meanWith (average xs) xs.length x = average (xs ++ [x]) := by
  have hsum : average xs * xs.length = xs.sum := by
    unfold average
    cases xs with
    | nil => simp
    | cons y rest => field_simp
  show (average xs * (xs.length : ℚ) + (x : ℚ))
      / ((xs.length : ℚ) + (1 : Nat))
    = average (xs ++ [x])
  rw [hsum]
  simp [average]

-- ================================================================= histories

namespace StepHistory

/-- What the executions of a step that count for a history count for: how
long they took and how much they read. -/
def samples (steps : List StepExecution) : List (Nat × Nat) :=
  steps.filterMap sample?

section Samples

variable {α : Type} [Quantity α]

/-- A history is made from its samples. -/
theorem ofSteps_eq_foldl (name : String) (steps : List StepExecution) :
    ofSteps (α := α) name steps
      = (samples steps).foldl (fun h s => h.withSample s.1 s.2)
          (empty name) := by
  unfold ofSteps samples
  rw [List.foldl_filterMap]
  congr 1
  funext h s
  unfold append
  cases sample? s <;> rfl

/-- So it depends on nothing else. -/
theorem ofSteps_congr {steps others : List StepExecution} (name : String)
    (h : samples steps = samples others) :
    ofSteps (α := α) name steps = ofSteps name others := by
  rw [ofSteps_eq_foldl, ofSteps_eq_foldl, h]

/-- What holds without samples and is kept by one more of them holds of a
history and its samples. -/
theorem ofSteps_induction
    {motive : StepHistory α → List (Nat × Nat) → Prop} (name : String)
    (hempty : motive (empty name) [])
    (hsample : ∀ (h : StepHistory α) (xs : List (Nat × Nat)) (s : Nat × Nat),
      motive h xs → motive (h.withSample s.1 s.2) (xs ++ [s]))
    (steps : List StepExecution) :
    motive (ofSteps name steps) (samples steps) := by
  -- The induction is on what is still to come, so what has been taken in is
  -- part of what is shown.
  have hfold : ∀ (xs done : List (Nat × Nat)) (h : StepHistory α),
      motive h done →
        motive (xs.foldl (fun h s => h.withSample s.1 s.2) h)
          (done ++ xs) := by
    intro xs
    induction xs with
    | nil =>
        intro done h hm
        rw [List.append_nil]
        exact hm
    | cons x rest ih =>
        intro done h hm
        rw [List.append_cons]
        exact ih _ _ (hsample h done x hm)
  rw [ofSteps_eq_foldl]
  exact hfold _ [] _ hempty

/-- It counts them. -/
theorem count_ofSteps_samples (name : String)
    (steps : List StepExecution) :
    (ofSteps (α := α) name steps).count = (samples steps).length := by
  refine ofSteps_induction (motive := fun h xs => h.count = xs.length) name
    rfl (fun h xs s hcount => ?_) steps
  rw [List.length_append, List.length_singleton, ← hcount]
  rfl

/-- The execution counts for a history: it has ended, and both ends of its
time are known. -/
def Sampled (s : StepExecution) : Prop := (sample? s).isSome = true

instance (s : StepExecution) : Decidable (Sampled s) :=
  inferInstanceAs (Decidable ((sample? s).isSome = true))

/-- Only samples count. -/
theorem ofSteps_sampled (name : String) (steps : List StepExecution) :
    ofSteps (α := α) name (steps.filter (Sampled ·))
      = ofSteps name steps := by
  refine ofSteps_congr name ?_
  unfold samples
  rw [List.filterMap_filter]
  refine List.filterMap_congr fun s _ => ?_
  by_cases hs : Sampled s
  · rw [if_pos (decide_eq_true hs)]
  · have hnone : sample? s = none := by simpa [Sampled] using hs
    rw [if_neg (by simpa using hs), hnone]

/-- A history counts its samples. -/
theorem count_ofSteps (name : String) (steps : List StepExecution) :
    (ofSteps (α := α) name steps).count = steps.countP (Sampled ·) := by
  rw [count_ofSteps_samples]
  unfold samples
  rw [List.length_filterMap_eq_countP]
  exact List.countP_congr fun s _ => (decide_eq_true_iff (p := Sampled s)).symm

end Samples

/-- The means are the averages of these samples. -/
structure Averages (h : StepHistory ℚ) (xs : List (Nat × Nat)) :
    Prop where
  count : h.count = xs.length
  durations : h.meanDuration = average (xs.map (·.1))
  reads : h.meanReads = average (xs.map (·.2))

/-- They still are with one more. -/
theorem Averages.withSample {h : StepHistory ℚ} {xs : List (Nat × Nat)}
    (ha : Averages h xs) (duration reads : Nat) :
    Averages (h.withSample duration reads) (xs ++ [(duration, reads)]) where
  count := by
    show h.count + 1 = _
    rw [ha.count, List.length_append, List.length_singleton]
  durations := by
    show meanWith h.meanDuration h.count duration = _
    have hmean := meanWith_average (xs.map (·.1)) duration
    rw [List.length_map] at hmean
    rw [ha.count, ha.durations, hmean, List.map_append]
    rfl
  reads := by
    show meanWith h.meanReads h.count reads = _
    have hmean := meanWith_average (xs.map (·.2)) reads
    rw [List.length_map] at hmean
    rw [ha.count, ha.reads, hmean, List.map_append]
    rfl

/-- The means of a history in exact numbers are the averages of its
samples. -/
theorem averages_ofSteps (name : String) (steps : List StepExecution) :
    Averages (ofSteps name steps) (samples steps) :=
  ofSteps_induction name ⟨rfl, average_nil.symm, average_nil.symm⟩
    (fun _ _ s ha => ha.withSample s.1 s.2) steps

end StepHistory

-- =========================================================== checked numbers

/-- A rational number, unless there was a division by zero on the way to
it. -/
inductive Checked where
  | number (x : ℚ)
  | undefined

namespace Checked

/-- What two numbers make, if both are there. -/
def combine (f : ℚ → ℚ → Checked) : Checked → Checked → Checked
  | .number x, .number y => f x y
  | _, _ => .undefined

instance : Quantity Checked where
  add := combine fun x y => .number (x + y)
  mul := combine fun x y => .number (x * y)
  div := combine fun x y => if y = 0 then .undefined else .number (x / y)
  ofCount n := .number n
  less
    | .number x, .number y => decide (x < y)
    | _, _ => false

theorem div_number {x y : ℚ} (hy : y ≠ 0) :
    (number x / number y : Checked) = number (x / y) :=
  if_neg hy

/-- No mean of `n + 1` values is undefined. -/
theorem meanWith_number (mean : ℚ) (n value : Nat) :
    meanWith (number mean) n value = number (meanWith mean n value) := by
  have hne : (n : ℚ) + (1 : Nat) ≠ 0 := by positivity
  show (number (mean * n + value) / number ((n : ℚ) + (1 : Nat)) : Checked)
    = _
  rw [div_number hne]
  rfl

end Checked

namespace StepHistory

/-- A history in checked numbers. -/
def checked (h : StepHistory ℚ) : StepHistory Checked :=
  { h with
    meanDuration := .number h.meanDuration
    meanReads := .number h.meanReads }

/-- One more sample divides by no zero. -/
theorem withSample_checked (h : StepHistory ℚ) (duration reads : Nat) :
    h.checked.withSample duration reads
      = (h.withSample duration reads).checked := by
  unfold withSample checked
  simp only [Checked.meanWith_number]

/-- No history does. -/
theorem ofSteps_checked (name : String) (steps : List StepExecution) :
    ofSteps name steps = (ofSteps (α := ℚ) name steps).checked := by
  rw [ofSteps_eq_foldl]
  refine ofSteps_induction (α := ℚ)
    (motive := fun h xs => xs.foldl (fun h s => h.withSample s.1 s.2)
      (empty name) = h.checked) name rfl (fun h xs s hchecked => ?_) steps
  rw [List.foldl_append, hchecked]
  exact withSample_checked h s.1 s.2

end StepHistory

end BatchAdmin
