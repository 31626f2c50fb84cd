/-
Which executions of a step its progress is judged by.

The progress of a step is to be judged by the executions of the step that
came before it in the same job, the latest thousand of them
(`precedents`). The desk takes the latest thousand of all executions of the
step and leaves out the step itself (`judges`). A listing by falling ids is
cut by a step into what is later and what is earlier (`split_at`), so the
judges are the later executions and then as many of the earlier ones as
there is room for (`judges_eq`).

The two are the same if nothing is later and there is room for all that is
earlier. Only executions that have ended, with both ends of their time
known, count for a history (`Sampled`), and so the histories rest on the
same samples exactly if neither the later ones among the judges nor the
precedents without a place there are samples (`samples_iff`).
-/
import BatchAdmin.Proofs.JobDesk.Reports
import BatchAdmin.Proofs.Progress.Averages
import Mathlib.Data.List.Flatten

namespace BatchAdmin

-- ================================================================ the lists

/-- Steps by falling ids, the latest first. -/
def Falling (steps : List StepExecution) : Prop :=
  steps.Pairwise fun a b => b.id < a.id

/-- The list is of the steps with a property, the latest first. -/
structure LatestFirst (steps : List StepExecution)
    (P : StepExecution → Prop) : Prop where
  falling : Falling steps
  mem : ∀ s, s ∈ steps ↔ P s

/-- A part of a falling list is of the steps with both properties. -/
theorem LatestFirst.filter {steps : List StepExecution}
    {P : StepExecution → Prop} (h : LatestFirst steps P)
    (p : StepExecution → Prop) [DecidablePred p] :
    LatestFirst (steps.filter (p ·)) fun s => P s ∧ p s where
  falling := h.falling.sublist List.filter_sublist
  mem s := by rw [List.mem_filter, h.mem, decide_eq_true_iff]

namespace Engine

variable {engine : Engine} {job name : String} {s : StepExecution}

/-- A step of this name in an execution of the job. -/
def Runs (engine : Engine) (job name : String) (s : StepExecution) : Prop :=
  ∃ e ∈ engine.executions, e.job = job ∧ s ∈ e.steps ∧ s.name = name

/-- The executions of a step, execution by execution. -/
def stepRuns (engine : Engine) (job name : String) : List StepExecution :=
  (engine.executionsOf job).flatMap fun e =>
    e.steps.filter fun s => s.name == name

theorem stepHistory_perm (engine : Engine) (job name : String) :
    (engine.stepHistory job name).Perm (engine.stepRuns job name) :=
  List.mergeSort_perm _ _

theorem mem_stepHistory :
    s ∈ engine.stepHistory job name ↔ engine.Runs job name s := by
  rw [(engine.stepHistory_perm job name).mem_iff]
  unfold stepRuns Runs
  rw [List.mem_flatMap]
  simp only [mem_executionsOf, List.mem_filter, beq_iff_eq, and_assoc]

/-- The executions of a step are listed by falling ids. -/
theorem Tied.falling_stepHistory (ht : engine.Tied) (hn : engine.Numbered)
    (job name : String) : Falling (engine.stepHistory job name) := by
  have hids : ((engine.stepHistory job name).map (·.id)).Nodup := by
    refine ((engine.stepHistory_perm job name).map _).symm.nodup ?_
    refine (ht.nodup_stepIds hn).sublist (List.Sublist.map _ ?_)
    exact (List.filter_sublist.flatMap _).trans
      (.flatMap_right _ fun e _ => List.filter_sublist)
  have hsorted : (engine.stepHistory job name).Pairwise
      fun a b => b.id ≤ a.id := by
    refine (List.pairwise_mergeSort ?_ ?_ _).imp fun h => of_decide_eq_true h
    · intro a b c hab hbc
      exact decide_eq_true
        (Int.le_trans (of_decide_eq_true hbc) (of_decide_eq_true hab))
    · intro a b
      rcases Int.le_total b.id a.id with h | h
      · simp [h]
      · simp [h]
  refine (hsorted.and (List.pairwise_map.1 hids)).imp fun {a b} hab => ?_
  have hle := hab.1
  have hne := hab.2
  omega

end Engine

/-- A step cuts a falling list into what is later and what is earlier. -/
theorem Falling.split_at {steps : List StepExecution} {t : StepExecution}
    (h : Falling steps) (ht : t ∈ steps) :
    steps = steps.filter (fun s => t.id < s.id)
      ++ t :: steps.filter (fun s => s.id < t.id) := by
  induction steps with
  | nil => cases ht
  | cons s rest ih =>
      obtain ⟨hfirst, hrest⟩ := List.pairwise_cons.1 h
      rcases List.mem_cons.1 ht with rfl | ht
      · have hnone : rest.filter (fun s => t.id < s.id) = [] := by
          refine List.filter_eq_nil_iff.2 fun x hx => ?_
          have hlt := hfirst x hx
          rw [decide_eq_true_iff]
          omega
        have hall : rest.filter (fun s => s.id < t.id) = rest := by
          refine List.filter_eq_self.2 fun x hx => ?_
          exact decide_eq_true (hfirst x hx)
        rw [List.filter_cons_of_neg (by simp), hnone,
          List.filter_cons_of_neg (by simp), hall]
        rfl
      · have hlt := hfirst t ht
        have hnot : ¬ s.id < t.id := by omega
        rw [List.filter_cons_of_pos (by simpa using hlt),
          List.filter_cons_of_neg (by simpa using hnot),
          List.cons_append, ← ih hrest ht]

-- ============================================================= the histories

namespace JobDesk

open Engine (window)
open StepHistory (Sampled)

variable {engine : Engine} {job : String} {t : StepExecution}

/-- The executions of a step that were begun before this one. -/
def earlier (engine : Engine) (job : String) (t : StepExecution) :
    List StepExecution :=
  (engine.stepHistory job t.name).filter fun s => s.id < t.id

/-- Those that were begun after it. -/
def later (engine : Engine) (job : String) (t : StepExecution) :
    List StepExecution :=
  (engine.stepHistory job t.name).filter fun s => t.id < s.id

/-- The executions that a step is to be judged by: the latest of those that
were begun before it, as many as a history is made of. -/
def precedents (engine : Engine) (job : String) (t : StepExecution) :
    List StepExecution :=
  window 0 historyLimit (earlier engine job t)

/-- The executions that a step is judged by. -/
def judges (engine : Engine) (job : String) (t : StepExecution) :
    List StepExecution :=
  (window 0 historyLimit (engine.stepHistory job t.name)).filter
    fun s => s.id ≠ t.id

theorem history_eq (engine : Engine) (job : String) (t : StepExecution) :
    history engine job t = .ofSteps t.name (judges engine job t) := rfl

/-- How many places the later executions leave for the earlier ones, the
step itself having taken one. -/
def placesLeft (engine : Engine) (job : String) (t : StepExecution) : Nat :=
  historyLimit - 1 - (later engine job t).length

/-- No later execution among the judges is a sample, and none of the
precedents that the places left are not enough for. -/
def Unspoiled (engine : Engine) (job : String) (t : StepExecution) : Prop :=
  (∀ s ∈ window 0 historyLimit (later engine job t), ¬ Sampled s)
    ∧ ∀ s ∈ (precedents engine job t).drop (placesLeft engine job t),
        ¬ Sampled s

theorem id_lt_of_mem_later {s : StepExecution} (h : s ∈ later engine job t) :
    t.id < s.id :=
  of_decide_eq_true (List.mem_filter.1 h).2

theorem id_lt_of_mem_earlier {s : StepExecution}
    (h : s ∈ earlier engine job t) : s.id < t.id :=
  of_decide_eq_true (List.mem_filter.1 h).2

/-- Leaving out a step that is not among these leaves out none. -/
theorem filter_others {steps : List StepExecution}
    (h : ∀ s ∈ steps, s.id ≠ t.id) :
    steps.filter (fun s => s.id ≠ t.id) = steps :=
  List.filter_eq_self.2 fun s hs => decide_eq_true (h s hs)

/-- The judges are the later executions, and then the latest of the earlier
ones on the places left. -/
theorem judges_eq (hf : Falling (engine.stepHistory job t.name))
    (ht : t ∈ engine.stepHistory job t.name) :
    judges engine job t
      = window 0 historyLimit (later engine job t)
        ++ window 0 (placesLeft engine job t) (earlier engine job t) := by
  have hsplit : engine.stepHistory job t.name
      = later engine job t ++ t :: earlier engine job t := hf.split_at ht
  have hlater : ∀ n, ((later engine job t).take n).filter
      (fun s => s.id ≠ t.id) = (later engine job t).take n := fun n =>
    filter_others fun s hs =>
      (id_lt_of_mem_later (List.mem_of_mem_take hs)).ne'
  have hearlier : ∀ n, ((earlier engine job t).take n).filter
      (fun s => s.id ≠ t.id) = (earlier engine job t).take n := fun n =>
    filter_others fun s hs =>
      (id_lt_of_mem_earlier (List.mem_of_mem_take hs)).ne
  unfold judges window
  rw [hsplit, List.drop_zero, List.drop_zero, List.drop_zero,
    List.take_append, List.filter_append, hlater]
  congr 1
  unfold placesLeft
  cases hroom : historyLimit - (later engine job t).length with
  | zero =>
      have hnone : historyLimit - 1 - (later engine job t).length = 0 := by
        omega
      rw [hnone]
      rfl
  | succ room =>
      have hleft : historyLimit - 1 - (later engine job t).length = room := by
        omega
      rw [hleft, List.take_succ_cons, List.filter_cons_of_neg (by simp),
        hearlier]

/-- The precedents are those on the places left, and the rest. -/
theorem precedents_eq (engine : Engine) (job : String) (t : StepExecution) :
    precedents engine job t
      = window 0 (placesLeft engine job t) (earlier engine job t)
        ++ (precedents engine job t).drop (placesLeft engine job t) := by
  have hfew : placesLeft engine job t ≤ historyLimit := by
    unfold placesLeft
    omega
  have htake : (precedents engine job t).take (placesLeft engine job t)
      = window 0 (placesLeft engine job t) (earlier engine job t) := by
    unfold precedents window
    rw [List.take_take, Nat.min_eq_left hfew]
  rw [← htake, List.take_append_drop]

/-- Where nothing of one list is in the others, putting it in front comes to
the same as putting another one behind only if both are empty. -/
theorem append_comm_iff {xs ys zs : List StepExecution}
    (h : ∀ s ∈ xs, s ∉ ys ++ zs) :
    xs ++ ys = ys ++ zs ↔ xs = [] ∧ zs = [] := by
  constructor
  · intro heq
    have hxs : xs = [] := by
      refine List.eq_nil_iff_forall_not_mem.2 fun s hs => h s hs ?_
      rw [← heq]
      exact List.mem_append_left _ hs
    subst hxs
    exact ⟨rfl, List.self_eq_append_right.1 heq⟩
  · rintro ⟨rfl, rfl⟩
    exact (List.append_nil _).symm

/-- No later execution is a precedent. -/
theorem not_mem_precedents {s : StepExecution}
    (h : s ∈ window 0 historyLimit (later engine job t)) :
    s ∉ precedents engine job t := by
  intro hs
  have hlater := id_lt_of_mem_later (List.mem_of_mem_take h)
  have hearlier := id_lt_of_mem_earlier (List.mem_of_mem_take hs)
  omega

section Judges

variable (hf : Falling (engine.stepHistory job t.name))
  (ht : t ∈ engine.stepHistory job t.name)

include hf ht

/-- The judges are the precedents if nothing is later and there is a place
for all that is earlier. -/
theorem judges_eq_precedents_iff :
    judges engine job t = precedents engine job t
      ↔ later engine job t = []
        ∧ (earlier engine job t).length < historyLimit := by
  have hapart : ∀ s ∈ window 0 historyLimit (later engine job t),
      s ∉ precedents engine job t := fun s hs => not_mem_precedents hs
  rw [precedents_eq] at hapart
  rw [judges_eq hf ht, precedents_eq, append_comm_iff hapart]
  have hpos : historyLimit = 999 + 1 := rfl
  have hnone : window 0 historyLimit (later engine job t) = []
      ↔ later engine job t = [] := by
    unfold window
    rw [List.drop_zero, List.take_eq_nil_iff, hpos]
    simp
  rw [hnone]
  refine and_congr_right fun hlater => ?_
  unfold placesLeft precedents window
  rw [hlater, List.drop_eq_nil_iff, List.drop_zero, List.length_take, hpos,
    List.length_nil]
  omega

/-- The samples among the judges are those among the precedents if nothing
has spoiled them. -/
theorem samples_iff :
    (judges engine job t).filter (Sampled ·)
        = (precedents engine job t).filter (Sampled ·)
      ↔ Unspoiled engine job t := by
  have hprecedents := congrArg (List.filter (Sampled ·))
    (precedents_eq engine job t)
  rw [List.filter_append] at hprecedents
  have hapart : ∀ s ∈ (window 0 historyLimit (later engine job t)).filter
      (Sampled ·), s ∉ (window 0 (placesLeft engine job t)
          (earlier engine job t)).filter (Sampled ·)
        ++ ((precedents engine job t).drop (placesLeft engine job t)).filter
          (Sampled ·) := by
    intro s hs
    rw [← hprecedents]
    exact fun h => not_mem_precedents (List.mem_of_mem_filter hs)
      (List.mem_of_mem_filter h)
  rw [judges_eq hf ht, List.filter_append, hprecedents,
    append_comm_iff hapart, List.filter_eq_nil_iff, List.filter_eq_nil_iff]
  simp only [decide_eq_true_iff]
  rfl

end Judges

-- =============================================================== any moment

/-- How a history comes about for a step of an execution of a job. -/
structure Judged (engine : Engine) (job : String) (t : StepExecution)
    (h : StepHistory Float) : Prop where
  /-- The earlier executions are those of the step in the job that have
  smaller ids, the latest first. -/
  before : LatestFirst (earlier engine job t) fun s =>
    engine.Runs job t.name s ∧ s.id < t.id
  /-- The later ones are those with greater ids. -/
  behind : LatestFirst (later engine job t) fun s =>
    engine.Runs job t.name s ∧ t.id < s.id
  /-- The judges are the later executions, and the earlier ones on the
  places that these and the step itself leave. -/
  parts : judges engine job t
    = window 0 historyLimit (later engine job t)
      ++ window 0 (placesLeft engine job t) (earlier engine job t)
  history : h = .ofSteps t.name (judges engine job t)
  count : h.count = (judges engine job t).countP (Sampled ·)
  /-- The judges are the precedents if nothing is later and there is a place
  for all that is earlier. -/
  same : judges engine job t = precedents engine job t
    ↔ later engine job t = []
      ∧ (earlier engine job t).length < historyLimit
  /-- The samples among them are those among the precedents if these are not
  spoiled. -/
  samples : (judges engine job t).filter (Sampled ·)
      = (precedents engine job t).filter (Sampled ·)
    ↔ Unspoiled engine job t
  /-- The history is then that of the precedents. -/
  unspoiled : Unspoiled engine job t →
    h = .ofSteps t.name (precedents engine job t)

/-- In an engine whose records are tied a step is judged. -/
theorem judged (hn : engine.Numbered) (ht : engine.Tied) {e : Execution}
    (he : e ∈ engine.executions) (hs : t ∈ e.steps) :
    Judged engine e.job t (history engine e.job t) := by
  have hlisted : LatestFirst (engine.stepHistory e.job t.name)
      (engine.Runs e.job t.name) :=
    ⟨ht.falling_stepHistory hn _ _, fun _ => Engine.mem_stepHistory⟩
  have hmem := (hlisted.mem t).2 ⟨e, he, rfl, hs, rfl⟩
  have hsamples := samples_iff hlisted.falling hmem
  refine ⟨hlisted.filter _, hlisted.filter _,
    judges_eq hlisted.falling hmem, rfl, StepHistory.count_ofSteps _ _,
    judges_eq_precedents_iff hlisted.falling hmem, hsamples, fun hu => ?_⟩
  rw [history_eq, ← StepHistory.ofSteps_sampled, hsamples.2 hu,
    StepHistory.ofSteps_sampled]

/-- The progress of a step of an execution is found, with its history. -/
theorem progress_eq (hn : engine.Numbered) (now : Instant) {e : Execution}
    (he : e ∈ engine.executions) (hs : t ∈ e.steps) :
    progress engine now e.id t.id
      = .ok (.of now t (history engine e.job t)) := by
  have hstep : engine.findStep e.id t.id = .ok t := by
    unfold Engine.findStep
    rw [hn.find he]
    dsimp only [Option.bind]
    rw [Engine.step?_of_mem (Engine.nodup_of_rising (hn.steps e he)) hs]
  have hexecution : engine.findExecution e.id = .ok e := by
    unfold Engine.findExecution
    rw [hn.find he]
  unfold progress
  rw [hstep, hexecution]
  rfl

/-- Whatever has been done to an engine that had run nothing: the progress
of every step of every execution is told, with a history that is judged. -/
theorem progress_judged (definitions : List JobDefinition)
    (pace : Option Nat) (turns : List Engine.Turn) (now : Instant) :
    let engine := (Engine.fresh definitions pace).play turns
    ∀ e ∈ engine.executions, ∀ t ∈ e.steps,
      progress engine now e.id t.id
          = .ok (.of now t (history engine e.job t))
        ∧ Judged engine e.job t (history engine e.job t) := by
  intro engine e he t ht
  have hn := Engine.numbered_play definitions pace turns
  have htied := (Engine.tied_fresh definitions pace).play
    (Engine.numbered_fresh definitions pace) turns
  exact ⟨progress_eq hn now he ht, judged hn htied he ht⟩

/-- A job of no steps of its own. -/
def loading : List JobDefinition := [{ name := "load" }]

/-- It is launched twice, and both executions read. -/
def readTwice : List Engine.Turn :=
  [⟨.launch "load" (.ofList [("day", "1")]), 0, 0⟩,
    ⟨.startStep 1 "read", 1, 0⟩, ⟨.finishStep 1 1 .completed, 3, 0⟩,
    ⟨.finish 1 .completed .completed, 3, 0⟩,
    ⟨.launch "load" (.ofList [("day", "2")]), 4, 0⟩,
    ⟨.startStep 2 "read", 5, 0⟩, ⟨.finishStep 2 2 .completed, 8, 0⟩]

/-- The second reading is judged by the first one. -/
theorem secondReading_judged :
    let engine := (Engine.fresh loading none).play readTwice
    ∃ e ∈ engine.executions, ∃ t ∈ e.steps, t.id = 2
      ∧ progress engine ⟨9, 0⟩ e.id t.id
        = .ok (.of ⟨9, 0⟩ t (history engine e.job t))
      ∧ judges engine e.job t = precedents engine e.job t
      ∧ (history engine e.job t).count = 1 := by
  intro engine
  have hsecond : ∃ e ∈ engine.executions, ∃ t ∈ e.steps,
      t.id = 2 ∧ e.job = "load" ∧ t.name = "read" := by decide
  obtain ⟨e, he, t, ht, hid, hjob, hname⟩ := hsecond
  obtain ⟨hprogress, hjudged⟩ :=
    progress_judged loading none readTwice ⟨9, 0⟩ e he t ht
  have hbefore : (earlier engine e.job t).Perm
      ((engine.stepRuns "load" "read").filter (·.id < 2)) := by
    unfold earlier
    rw [hid, hjob, hname]
    exact (engine.stepHistory_perm _ _).filter _
  have hbehind : later engine e.job t = [] := by
    unfold later
    rw [hid, hjob, hname]
    refine List.eq_nil_of_length_eq_zero ?_
    exact ((engine.stepHistory_perm _ _).filter _).length_eq.trans (by decide)
  have hfew : (earlier engine e.job t).length < historyLimit :=
    hbefore.length_eq.trans_lt (by decide)
  have hsame : judges engine e.job t = precedents engine e.job t :=
    hjudged.same.2 ⟨hbehind, hfew⟩
  refine ⟨e, he, t, ht, hid, hprogress, hsame, ?_⟩
  have hall : precedents engine e.job t = earlier engine e.job t :=
    window_all hfew.le
  rw [hjudged.count, hsame, hall, hbefore.countP_eq]
  decide

/-- The first reading is judged by the second one, though nothing comes
before it. -/
theorem firstReading_misjudged :
    let engine := (Engine.fresh loading none).play readTwice
    ∃ e ∈ engine.executions, ∃ t ∈ e.steps, t.id = 1
      ∧ precedents engine e.job t = []
      ∧ (history engine e.job t).count = 1
      ∧ (StepHistory.ofSteps (α := Float) t.name
          (precedents engine e.job t)).count = 0 := by
  intro engine
  have hfirst : ∃ e ∈ engine.executions, ∃ t ∈ e.steps,
      t.id = 1 ∧ e.job = "load" ∧ t.name = "read" := by decide
  obtain ⟨e, he, t, ht, hid, hjob, hname⟩ := hfirst
  have hn := Engine.numbered_play loading none readTwice
  have htied := (Engine.tied_fresh loading none).play
    (Engine.numbered_fresh loading none) readTwice
  have hjudged := judged hn htied he ht
  have hbefore : earlier engine e.job t = [] := by
    unfold earlier
    rw [hid, hjob, hname]
    refine List.eq_nil_of_length_eq_zero ?_
    exact ((engine.stepHistory_perm _ _).filter _).length_eq.trans (by decide)
  have hbehind : (later engine e.job t).Perm
      ((engine.stepRuns "load" "read").filter (1 < ·.id)) := by
    unfold later
    rw [hid, hjob, hname]
    exact (engine.stepHistory_perm _ _).filter _
  have hnone : precedents engine e.job t = [] := by
    unfold precedents
    rw [hbefore]
    rfl
  have hfew : (later engine e.job t).length ≤ historyLimit :=
    hbehind.length_eq.trans_le (by decide)
  have hjudges : judges engine e.job t = later engine e.job t := by
    rw [hjudged.parts, hbefore, window_all hfew,
      window_all (Nat.zero_le _), List.append_nil]
  refine ⟨e, he, t, ht, hid, hnone, ?_, by rw [hnone]; rfl⟩
  rw [hjudged.count, hjudges, hbehind.countP_eq]
  decide

end JobDesk

end BatchAdmin
