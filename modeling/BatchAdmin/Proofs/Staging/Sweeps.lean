/-
Deletes by pattern, step by step.

A delete lists once and then removes its matches one by one (`Sweep`). So
it acts on a listing that others may have made old: a match may have gone
by the time it is tried, and may be there again. What a step can be is told
by one list (`Sweep.Steps`). A step takes away at most one file, which the
pattern matches, and counts it exactly if it was there to be taken.

A delete that takes its steps with nobody in between is served as at the
desk (`run_span`).
-/
import BatchAdmin.Staging.Desk
import BatchAdmin.Proofs.Staging.Listing

namespace BatchAdmin

open Text StagingArea

-- ============================================================== the deletes

/-- How far a delete has come. -/
inductive Sweep.Phase where
  | asked
  /-- The matches of its listing that it has yet to try, and how many files
  it has taken away. -/
  | removing (left : List StoredFile) (count : Nat)
  | answered (answer : Answer Nat)

/-- How many files a delete has counted. -/
def Sweep.Phase.counted : Sweep.Phase → Nat
  | .removing _ count | .answered (.ok count) => count
  | .asked | .answered (.error _) => 0

/-- A delete by pattern on its way. -/
structure Sweep where
  pattern : String
  phase : Sweep.Phase

namespace Sweep

/-- The pattern of the delete matches a path. -/
def Aims (pattern : String) (path : StagePath) : Prop :=
  ∃ glob, Glob.read pattern = .ok glob ∧ glob.matches path.text = true

instance (pattern : String) (path : StagePath) :
    Decidable (Aims pattern path) :=
  match hread : Glob.read pattern with
  | .error _ => isFalse fun ⟨_, h, _⟩ => nomatch hread.symm.trans h
  | .ok glob =>
      decidable_of_iff (glob.matches path.text = true)
        ⟨fun h => ⟨glob, hread, h⟩, fun ⟨_, h, hm⟩ => by
          cases hread.symm.trans h
          exact hm⟩

theorem aims_iff {pattern : String} {glob : Glob}
    (hread : Glob.read pattern = .ok glob) (path : StagePath) :
    Aims pattern path ↔ glob.matches path.text = true := by
  unfold Aims
  rw [hread]
  simp

/-- The next step of a delete: the area after it, the phase after it, and
the path whose file it has taken away. -/
def step (faults : StoreFaults) (area : StagingArea) (w : Sweep) :
    StagingArea × Phase × Option StagePath :=
  match w.phase with
  | .asked =>
      match Glob.read w.pattern with
      | .error failure => (area, .answered (.error failure), none)
      | .ok glob =>
          match area.list faults with
          | .error fault =>
              (area, .answered (.error (Desk.storeFailure fault)), none)
          | .ok files =>
              (area,
                .removing (files.filter fun f => glob.matches f.path.text) 0,
                none)
  | .removing [] count => (area, .answered (.ok count), none)
  | .removing (f :: rest) count =>
      match area.remove faults f.path with
      | .ok (true, area) => (area, .removing rest (count + 1), some f.path)
      | .ok (false, area) => (area, .removing rest count, none)
      | .error _ => (area, .removing rest count, none)
  | .answered answer => (area, .answered answer, none)

variable {faults : StoreFaults} {area area' : StagingArea} {w : Sweep}
  {phase : Phase} {gone : Option StagePath}

-- =========================================================== with nobody else

/-- A delete that takes some steps with nobody in between. -/
def run (faults : StoreFaults) : Nat → StagingArea → Sweep →
    StagingArea × Phase
  | 0, area, w => (area, w.phase)
  | n + 1, area, w =>
      let (area, phase, _) := w.step faults area
      run faults n area { w with phase }

theorem run_answered (n : Nat) (pattern : String) (answer : Answer Nat) :
    run faults n area ⟨pattern, .answered answer⟩
      = (area, .answered answer) := by
  induction n with
  | zero => rfl
  | succ n ih => exact ih

/-- With a step for every match and one more, all are removed as at the
desk. -/
theorem run_removing (pattern : String) (left : List StoredFile)
    (count n : Nat) (hn : left.length < n) :
    run faults n area ⟨pattern, .removing left count⟩
      = ((Desk.removeAll faults area left).2,
          .answered (.ok (count + (Desk.removeAll faults area left).1))) := by
  obtain ⟨k, rfl⟩ :=
    Nat.exists_eq_succ_of_ne_zero (Nat.ne_of_gt (Nat.zero_lt_of_lt hn))
  induction left generalizing area count k with
  | nil => exact run_answered k pattern _
  | cons f rest ih =>
      rw [List.length_cons] at hn
      obtain ⟨j, rfl⟩ := Nat.exists_eq_succ_of_ne_zero
        (show k ≠ 0 by omega)
      have hrest : rest.length < j + 1 := by omega
      unfold run step Desk.removeAll
      cases hr : area.remove faults f.path with
      | error fault =>
          simp only [hr]
          exact ih count j hrest
      | ok outcome =>
          obtain ⟨gone, area'⟩ := outcome
          cases gone with
          | false =>
              simp only [hr]
              exact ih count j hrest
          | true =>
              simp only [hr]
              rw [show count + ((Desk.removeAll faults area' rest).1 + 1)
                = count + 1 + (Desk.removeAll faults area' rest).1 by omega]
              exact ih (count + 1) j hrest

/-- With steps enough a delete is served as at the desk. -/
theorem run_span (pattern : String) :
    run faults (area.files.length + 2) area ⟨pattern, .asked⟩
      = ((Desk.delete faults area pattern).2,
          .answered (Desk.delete faults area pattern).1) := by
  unfold run step Desk.delete
  cases hread : Glob.read pattern with
  | error failure => exact run_answered _ pattern _
  | ok glob =>
      cases hlist : area.list faults with
      | error fault => exact run_answered _ pattern _
      | ok files =>
          have hlength := List.length_filter_le
            (fun f => glob.matches f.path.text) files
          rw [files_of_list hlist] at hlength ⊢
          dsimp only
          rw [run_removing pattern _ 0 _ (Nat.lt_succ_of_le hlength),
            Nat.zero_add]

-- ================================================================ the steps

/-- What a step of a delete can be, with all that it changes. -/
inductive Steps (area : StagingArea) (w : Sweep) :
    StagingArea → Phase → Option StagePath → Prop
  | refuse {failure : Failure} : w.phase = .asked →
      Steps area w area (.answered (.error failure)) none
  | look {left : List StoredFile} : w.phase = .asked →
      (∀ f ∈ left, Aims w.pattern f.path) →
      Steps area w area (.removing left 0) none
  | miss {f : StoredFile} {rest : List StoredFile} {count : Nat} :
      w.phase = .removing (f :: rest) count →
      Steps area w area (.removing rest count) none
  | remove {area' : StagingArea} {f : StoredFile} {rest : List StoredFile}
      {count : Nat} :
      w.phase = .removing (f :: rest) count →
      area.contentAt? f.path ≠ none →
      area'.Became (Function.update area.contentAt? f.path none)
        area.disk.get? →
      area'.Orderly →
      Steps area w area' (.removing rest (count + 1)) (some f.path)
  | finish {count : Nat} : w.phase = .removing [] count →
      Steps area w area (.answered (.ok count)) none
  | rest {answer : Answer Nat} : w.phase = .answered answer →
      Steps area w area (.answered answer) none

/-- The next step of a delete is one of these. -/
theorem steps (h : area.Orderly) (faults : StoreFaults) (w : Sweep) :
    Steps area w (w.step faults area).1 (w.step faults area).2.1
      (w.step faults area).2.2 := by
  unfold step
  split
  · rename_i hphase
    cases hread : Glob.read w.pattern with
    | error failure => exact .refuse hphase
    | ok glob =>
        dsimp only
        cases area.list faults with
        | error fault => exact .refuse hphase
        | ok files =>
            refine .look hphase fun f hf => ⟨glob, hread, ?_⟩
            exact (List.mem_filter.1 hf).2
  · exact .finish ‹_›
  · rename_i f rest count hphase
    cases hr : area.remove faults f.path with
    | error fault => exact .miss hphase
    | ok outcome =>
        obtain ⟨gone, area'⟩ := outcome
        obtain ⟨hmissed, hgone⟩ := h.tidy.remove hr
        cases gone with
        | false =>
            obtain rfl := hmissed rfl
            exact .miss hphase
        | true =>
            obtain ⟨hfile, hb⟩ := hgone rfl
            exact .remove hphase hfile hb (h.remove hr)
  · exact .rest ‹_›

namespace Steps

theorem orderly (hs : Steps area w area' phase gone) (h : area.Orderly) :
    area'.Orderly := by
  cases hs with
  | remove _ _ _ ho => exact ho
  | _ => exact h

/-- A step takes away the file at the path that it tells, which was there,
or changes nothing. -/
theorem contents (hs : Steps area w area' phase gone) :
    (∃ path, gone = some path ∧ area.contentAt? path ≠ none
        ∧ area'.Became (Function.update area.contentAt? path none)
            area.disk.get?)
      ∨ (gone = none ∧ area' = area) := by
  cases hs with
  | remove _ hfile hb => exact .inl ⟨_, rfl, hfile, hb⟩
  | _ => exact .inr ⟨rfl, rfl⟩

/-- What is taken away is counted, and nothing else is. -/
theorem counted (hs : Steps area w area' phase gone) :
    phase.counted = w.phase.counted + gone.toList.length := by
  cases hs with
  | refuse hphase => rw [hphase]; rfl
  | look hphase => rw [hphase]; rfl
  | miss hphase => rw [hphase]; rfl
  | remove hphase => rw [hphase]; rfl
  | finish hphase => rw [hphase]; rfl
  | rest hphase => rw [hphase]; rfl

/-- A delete that has yet to try only what its pattern matches goes on to
do so, and takes away only that. -/
theorem aimed (hs : Steps area w area' phase gone)
    (h : ∀ left count, w.phase = .removing left count →
      ∀ f ∈ left, Aims w.pattern f.path) :
    (∀ left count, phase = .removing left count →
        ∀ f ∈ left, Aims w.pattern f.path)
      ∧ ∀ path, gone = some path → Aims w.pattern path := by
  cases hs with
  | refuse => exact ⟨nofun, nofun⟩
  | look _ hleft =>
      refine ⟨?_, nofun⟩
      rintro _ _ ⟨⟩
      exact hleft
  | miss hphase =>
      refine ⟨?_, nofun⟩
      rintro _ _ ⟨⟩ f hf
      exact h _ _ hphase f (List.mem_cons_of_mem _ hf)
  | remove hphase =>
      constructor
      · rintro _ _ ⟨⟩ f hf
        exact h _ _ hphase f (List.mem_cons_of_mem _ hf)
      · rintro _ ⟨⟩
        exact h _ _ hphase _ List.mem_cons_self
  | finish => exact ⟨nofun, nofun⟩
  | rest => exact ⟨nofun, nofun⟩

end Steps

end Sweep

end BatchAdmin
