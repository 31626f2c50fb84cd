/-
What a history tells of the steps that it is made from.

Only finished steps count: what has ended, with both ends of its time known
(`sampled_iff_finished`). Of how long they took and of how much they read a
history tells the least, the greatest and the mean (`Summarises`). Each of
them is an invariant of the samples taken in so far: the first sample is the
least and the greatest, whatever stood there before, and every later one is
held against both (`Spans.concat`). Such bounds are determined by which
numbers there are, and a mean by how many and their sum; so a history does not
depend on the order of the steps (`ofSteps_perm`).

A step that ends before it begins took no time, with one exception, which
comes of the calendar (`Instant.FoldsBack`): between the first second of a day
and what is left of a leap second before it, time is counted although it goes
backwards (`foldedRun_counted`).
-/
import BatchAdmin.Proofs.Progress.Averages
import BatchAdmin.Proofs.Time.Lengths
import Mathlib.Algebra.Order.BigOperators.Group.List

namespace BatchAdmin

namespace StepHistory

open Quantity

-- ================================================================ the bounds

/-- The least and the greatest of some numbers, both zero if there are
none. -/
structure Spans (xs : List Nat) (low high : Nat) : Prop where
  none : xs = [] → low = 0 ∧ high = 0
  within : ∀ x ∈ xs, low ≤ x ∧ x ≤ high
  reached : xs ≠ [] → low ∈ xs ∧ high ∈ xs

variable {xs ys : List Nat} {low high low' high' : Nat}

/-- With one more number: the first one is both, another is held against
both. -/
theorem Spans.concat (h : Spans xs low high) {count : Nat}
    (hcount : count = xs.length) (x : Nat) :
    Spans (xs ++ [x]) (if count == 0 then x else min low x)
      (if count == 0 then x else max high x) := by
  subst hcount
  cases xs with
  | nil => exact ⟨by simp, by simp, by simp⟩
  | cons y rest =>
      obtain ⟨hlow, hhigh⟩ := h.reached (List.cons_ne_nil _ _)
      have hchoice : ∀ {bound z : Nat}, bound ∈ y :: rest →
          z = bound ∨ z = x → z ∈ y :: rest ++ [x] := by
        rintro bound z hbound (rfl | rfl)
        · exact List.mem_append_left _ hbound
        · exact List.mem_append_right _ (List.mem_singleton_self _)
      rw [if_neg (by simp), if_neg (by simp)]
      refine ⟨by simp, fun z hz => ?_, fun _ =>
        ⟨hchoice hlow (min_choice low x), hchoice hhigh (max_choice high x)⟩⟩
      rcases List.mem_append.1 hz with hz | hz
      · have hwithin := h.within z hz
        omega
      · rw [List.mem_singleton.1 hz]
        omega

/-- The bounds are determined by which numbers there are. -/
theorem Spans.unique (h : Spans xs low high) (h' : Spans ys low' high')
    (hperm : xs.Perm ys) : low = low' ∧ high = high' := by
  by_cases hnil : xs = []
  · obtain ⟨rfl, rfl⟩ := h.none hnil
    obtain ⟨rfl, rfl⟩ := h'.none (List.nil_perm.1 (hnil ▸ hperm))
    exact ⟨rfl, rfl⟩
  · obtain ⟨hlow, hhigh⟩ := h.reached hnil
    obtain ⟨hlow', hhigh'⟩ := h'.reached fun hnil' =>
      hnil (List.perm_nil.1 (hnil' ▸ hperm))
    have hl := h.within _ (hperm.mem_iff.2 hlow')
    have hl' := h'.within _ (hperm.mem_iff.1 hlow)
    have hh := h.within _ (hperm.mem_iff.2 hhigh')
    have hh' := h'.within _ (hperm.mem_iff.1 hhigh)
    omega

/-- The average lies between them. -/
theorem Spans.average_between (h : Spans xs low high) :
    (low : ℚ) ≤ average xs ∧ average xs ≤ high := by
  by_cases hnil : xs = []
  · obtain ⟨rfl, rfl⟩ := h.none hnil
    rw [hnil, average_nil]
    norm_num
  · have hlength : (0 : ℚ) < xs.length := by
      exact_mod_cast List.length_pos_iff.2 hnil
    have hlow : xs.length • low ≤ xs.sum :=
      List.card_nsmul_le_sum xs low fun x hx => (h.within x hx).1
    have hhigh : xs.sum ≤ xs.length • high :=
      List.sum_le_card_nsmul xs high fun x hx => (h.within x hx).2
    rw [nsmul_eq_mul, Nat.cast_id, Nat.mul_comm] at hlow hhigh
    unfold average
    rw [le_div_iff₀ hlength, div_le_iff₀ hlength]
    exact ⟨by exact_mod_cast hlow, by exact_mod_cast hhigh⟩

/-- The bounds of a history are those of its samples. -/
structure Ranges {α : Type} (h : StepHistory α) (xs : List (Nat × Nat)) :
    Prop where
  count : h.count = xs.length
  durations : Spans (xs.map (·.1)) h.minDuration h.maxDuration
  reads : Spans (xs.map (·.2)) h.minReads h.maxReads

section Numbers

variable {α : Type} [Quantity α]

/-- They still are with one more. -/
theorem Ranges.withSample {h : StepHistory α} {xs : List (Nat × Nat)}
    (hr : Ranges h xs) (duration reads : Nat) :
    Ranges (h.withSample duration reads) (xs ++ [(duration, reads)]) where
  count := by
    rw [List.length_append, List.length_singleton, ← hr.count]
    rfl
  durations := by
    rw [List.map_append]
    exact hr.durations.concat (hr.count.trans (List.length_map _).symm) duration
  reads := by
    rw [List.map_append]
    exact hr.reads.concat (hr.count.trans (List.length_map _).symm) reads

theorem ranges_ofSteps (name : String) (steps : List StepExecution) :
    Ranges (ofSteps (α := α) name steps) (samples steps) := by
  have hnone : Spans [] 0 0 := ⟨fun _ => ⟨rfl, rfl⟩, by simp, by simp⟩
  exact ofSteps_induction name ⟨rfl, hnone, hnone⟩
    (fun _ _ s hr => hr.withSample s.1 s.2) steps

theorem stepName_ofSteps (name : String) (steps : List StepExecution) :
    (ofSteps (α := α) name steps).stepName = name :=
  ofSteps_induction (motive := fun h _ => h.stepName = name) name rfl
    (fun _ _ _ h => h) steps

end Numbers

-- ================================================================= the steps

/-- The step has ended, and it is known when it began and when it ended. -/
def Finished (s : StepExecution) : Prop :=
  s.status.isRunning = false ∧ s.startTime.isSome = true
    ∧ s.endTime.isSome = true

instance (s : StepExecution) : Decidable (Finished s) :=
  inferInstanceAs (Decidable (s.status.isRunning = false
    ∧ s.startTime.isSome = true ∧ s.endTime.isSome = true))

/-- How long the step took; zero where that is not known. -/
def took (s : StepExecution) : Nat := s.duration?.getD 0

/-- Finished steps count for what they took and what they read, and others
for nothing. -/
theorem sample?_eq (s : StepExecution) :
    sample? s = if Finished s then some (took s, s.readCount) else none := by
  by_cases hf : Finished s
  · rw [if_pos hf]
    obtain ⟨hrun, hstart, hstop⟩ := hf
    obtain ⟨start, hstart⟩ := Option.isSome_iff_exists.1 hstart
    obtain ⟨stop, hstop⟩ := Option.isSome_iff_exists.1 hstop
    unfold sample? took StepExecution.duration?
    rw [hrun, hstart, hstop]
    rfl
  · rw [if_neg hf]
    unfold sample? StepExecution.duration?
    cases hrun : s.status.isRunning with
    | true => rfl
    | false =>
        cases hstart : s.startTime with
        | none => rfl
        | some start =>
            cases hstop : s.endTime with
            | none => rfl
            | some stop =>
                exact absurd ⟨hrun, hstart ▸ rfl, hstop ▸ rfl⟩ hf

theorem sampled_iff_finished {s : StepExecution} :
    Sampled s ↔ Finished s := by
  unfold Sampled
  rw [sample?_eq]
  split
  · next h => exact iff_of_true rfl h
  · next h => exact iff_of_false Bool.false_ne_true h

theorem samples_eq_map (steps : List StepExecution) :
    samples steps = (steps.filter (Finished ·)).map
      fun s => (took s, s.readCount) := by
  unfold samples
  rw [← List.filterMap_eq_map, List.filterMap_filter]
  refine List.filterMap_congr fun s _ => ?_
  rw [sample?_eq]
  simp

-- ================================================================= the order

attribute [ext] StepHistory

/-- A history in exact numbers does not depend on the order of its
samples. -/
theorem ofSteps_perm {steps others : List StepExecution} (name : String)
    (h : (samples steps).Perm (samples others)) :
    ofSteps (α := ℚ) name steps = ofSteps name others := by
  obtain ⟨hcount, hdurations, hreads⟩ := averages_ofSteps name steps
  obtain ⟨hcount', hdurations', hreads'⟩ := averages_ofSteps name others
  have hr := ranges_ofSteps (α := ℚ) name steps
  have hr' := ranges_ofSteps (α := ℚ) name others
  have hspan := hr.durations.unique hr'.durations (h.map _)
  have hspan' := hr.reads.unique hr'.reads (h.map _)
  have haverage : ∀ f : Nat × Nat → Nat, average ((samples steps).map f)
      = average ((samples others).map f) := by
    intro f
    unfold average
    rw [(h.map f).sum_eq, (h.map f).length_eq]
  ext1
  · rw [stepName_ofSteps, stepName_ofSteps]
  · rw [hcount, hcount', h.length_eq]
  · rw [hdurations, hdurations', haverage]
  · exact hspan.1
  · exact hspan.2
  · rw [hreads, hreads', haverage]
  · exact hspan'.1
  · exact hspan'.2

-- ============================================================ the statistics

/-- Some numbers in sum: the least, the greatest and the mean, which lies
between them. -/
structure Summarises (xs : List Nat) (low high : Nat) (mean : ℚ) : Prop where
  range : Spans xs low high
  average : mean = (xs.sum : ℚ) / xs.length
  between : (low : ℚ) ≤ mean ∧ mean ≤ high

theorem summarises (h : Spans xs low high) :
    Summarises xs low high (average xs) :=
  ⟨h, rfl, h.average_between⟩

/-- The history of any steps counts those of them that are finished, and tells
the least, the greatest and the mean of how long these took and of how much
they read. It is the same for all steps of which the same are finished, in any
order. A finished step took the time from its start to its end; where the end
precedes the start that is no time, unless the two fold back over the end of a
day. -/
theorem history_of_finished (name : String) (steps : List StepExecution) :
    let h : StepHistory ℚ := ofSteps name steps
    let finished := steps.filter (Finished ·)
    (h.stepName = name ∧ h.count = finished.length)
      ∧ Summarises (finished.map took) h.minDuration h.maxDuration
        h.meanDuration
      ∧ Summarises (finished.map (·.readCount)) h.minReads h.maxReads
        h.meanReads
      ∧ (∀ others : List StepExecution,
        (others.filter (Finished ·)).Perm finished → ofSteps name others = h)
      ∧ ∀ s ∈ finished, ∀ start ∈ s.startTime, ∀ stop ∈ s.endTime,
        took s = start.millisBetween stop
          ∧ (start.OnClock → stop.OnClock → ¬start ≤ stop →
            (took s = 0 ↔ ¬start.FoldsBack stop)) := by
  intro h finished
  obtain ⟨hcount, hdurations, hreads⟩ := averages_ofSteps name steps
  have hr := ranges_ofSteps (α := ℚ) name steps
  have hmap : ∀ f : Nat × Nat → Nat, (samples steps).map f
      = finished.map fun s => f (took s, s.readCount) := by
    intro f
    rw [samples_eq_map, List.map_map]
    rfl
  refine ⟨⟨stepName_ofSteps name steps, ?_⟩, ?_, ?_, fun others hperm => ?_,
    fun s hs start hstart stop hstop => ?_⟩
  · rw [hcount, samples_eq_map, List.length_map]
  · have hsum := summarises hr.durations
    rwa [← hdurations, hmap] at hsum
  · have hsum := summarises hr.reads
    rwa [← hreads, hmap] at hsum
  · refine ofSteps_perm name ?_
    rw [samples_eq_map, samples_eq_map]
    exact hperm.map _
  · have htook : took s = start.millisBetween stop := by
      unfold took StepExecution.duration?
      rw [Option.mem_def.1 hstart, Option.mem_def.1 hstop]
      rfl
    refine ⟨htook, fun hstart hstop hback => ?_⟩
    rw [htook]
    exact Instant.millisBetween_eq_zero_iff hstart hstop hback

-- ------------------------------------------------------- ends before starts

/-- An execution of a step that took a hundred seconds. -/
def plainRun : StepExecution :=
  { id := 1, name := "read", executionId := 1, status := .completed
    readCount := 3, startTime := some ⟨0, 0⟩, endTime := some ⟨100, 0⟩ }

/-- One with its ends the wrong way round. -/
def turnedRun : StepExecution :=
  { id := 2, name := "read", executionId := 2, status := .failed
    readCount := 5, startTime := some ⟨600, 0⟩, endTime := some ⟨500, 0⟩ }

/-- One that still runs. -/
def openRun : StepExecution :=
  { id := 3, name := "read", executionId := 3, status := .started
    readCount := 7, startTime := some ⟨900, 0⟩ }

/-- Neither the order nor what still runs makes a difference, and the ends the
wrong way round count as no time. -/
theorem turnedRun_counted :
    [turnedRun, plainRun].Perm
        ([plainRun, openRun, turnedRun].filter (Finished ·))
      ∧ ofSteps (α := ℚ) "read" [turnedRun, plainRun]
        = ofSteps "read" [plainRun, openRun, turnedRun]
      ∧ (⟨600, 0⟩ : Instant).OnClock ∧ (⟨500, 0⟩ : Instant).OnClock
      ∧ ¬(⟨600, 0⟩ : Instant) ≤ ⟨500, 0⟩
      ∧ ¬Instant.FoldsBack ⟨600, 0⟩ ⟨500, 0⟩
      ∧ took turnedRun = 0
      ∧ Summarises [100000, 0] 0 100000
        (ofSteps (α := ℚ) "read" [plainRun, openRun, turnedRun]).meanDuration
      ∧ Summarises [3, 5] 3 5
        (ofSteps (α := ℚ) "read" [plainRun, openRun, turnedRun]).meanReads := by
  have hfinished : [plainRun, openRun, turnedRun].filter (Finished ·)
      = [plainRun, turnedRun] := rfl
  have hperm : [turnedRun, plainRun].Perm
      ([plainRun, openRun, turnedRun].filter (Finished ·)) :=
    hfinished ▸ List.Perm.swap _ _ _
  obtain ⟨-, hdurations, hreads, hothers, htimes⟩ :=
    history_of_finished "read" [plainRun, openRun, turnedRun]
  have hfolds : ¬Instant.FoldsBack ⟨600, 0⟩ ⟨500, 0⟩ := fun h => by
    cases h.2.1
  have htook := (htimes turnedRun (by rw [hfinished]; simp) _ rfl _ rfl).2
    (by decide) (by decide) (by decide)
  exact ⟨hperm, hothers [turnedRun, plainRun] hperm, by decide, by decide,
    by decide, hfolds, htook.2 hfolds, hdurations, hreads⟩

/-- One that is ended in the leap second before the day in whose first moment
it is started. -/
def foldedRun : StepExecution :=
  { id := 4, name := "read", executionId := 4, status := .completed
    readCount := 5, startTime := some ⟨1483228800, 0⟩
    endTime := some ⟨1483228799, 1900000000⟩ }

/-- It counts with nine hundred milliseconds. -/
theorem foldedRun_counted :
    foldedRun.startTime = Instant.read? "2017-01-01T00:00:00Z"
      ∧ foldedRun.endTime = Instant.read? "2016-12-31T23:59:60.900Z"
      ∧ ¬(⟨1483228800, 0⟩ : Instant) ≤ ⟨1483228799, 1900000000⟩
      ∧ Finished foldedRun
      ∧ (ofSteps (α := ℚ) "read" [foldedRun]).minDuration = 900
      ∧ (ofSteps (α := ℚ) "read" [foldedRun]).maxDuration = 900
      ∧ took foldedRun ≠ 0 :=
  ⟨by decide +kernel, by decide +kernel, by decide, by decide, rfl, rfl,
    by decide⟩

end StepHistory

end BatchAdmin
