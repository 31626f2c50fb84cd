/-
Executions of one job side by side.

A job that is not marked concurrent is meant to have one execution at a
time. A launch sees to it: it looks at every execution of the job. A
restart looks only at the instance it restarts, so a job whose first
instance was stopped and whose second was then launched can have the
first restarted beside the second (`lateRestart_overlaps`).

That is the only way. `alone_iff_solo_restarts`: as long as executions
are only ended with a status that has ended, a play never shows two
running executions of a non-concurrent job exactly if every restart that
goes ahead for the job finds none of its executions running.

What carries the proof is that no change makes an execution run that did
not (`Makes.running_of_running`): a mark needs one that runs, and an end
brings a status that does not. So only a new execution can come to run
beside another, and a launch that goes ahead found none.
-/
import BatchAdmin.Proofs.Engine.Lineage

namespace BatchAdmin.Engine

variable {engine next : Engine} {turn : Turn} {job : String}

-- ========================================================= the vocabulary

/-- The running executions of a job. -/
def runningOf (engine : Engine) (job : String) : List Execution :=
  (engine.executionsOf job).filter Execution.isRunning

/-- Executions are only ended with a status that has ended. -/
def Conclusive : Rule := fun _ turn =>
  match turn.act with
  | .finish _ status _ => status.isRunning = false
  | _ => True

instance (engine : Engine) : ∀ turn, Decidable (Conclusive engine turn)
  | ⟨.finish _ status _, _⟩ =>
      inferInstanceAs (Decidable (status.isRunning = false))
  | ⟨.launch _ _, _⟩ | ⟨.stop _, _⟩ | ⟨.restart _, _⟩
  | ⟨.startStep _ _, _⟩ | ⟨.recordChunk _ _ _, _⟩
  | ⟨.finishStep _ _ _, _⟩ | ⟨.run _, _⟩ =>
      inferInstanceAs (Decidable True)

/-- The answer is no new execution of the job, or no execution of the job
runs. -/
def Solo (engine : Engine) (job : String) : Answer Execution → Prop
  | .ok e => e.job = job → (engine.runningOf job).isEmpty = true
  | .error _ => True

instance (engine : Engine) (job : String) :
    ∀ answer, Decidable (engine.Solo job answer)
  | .ok e => inferInstanceAs
      (Decidable (e.job = job → (engine.runningOf job).isEmpty = true))
  | .error _ => inferInstanceAs (Decidable True)

/-- A restart that goes ahead for the job finds no execution of it
running. -/
def SoloRestarts (job : String) : Rule := fun engine turn =>
  match turn.act with
  | .restart id => engine.Solo job (engine.restart id turn.now).1
  | _ => True

instance (job : String) (engine : Engine) :
    ∀ turn, Decidable (SoloRestarts job engine turn)
  | ⟨.restart id, now⟩ =>
      inferInstanceAs
        (Decidable (engine.Solo job (engine.restart id now).1))
  | ⟨.launch _ _, _⟩ | ⟨.stop _, _⟩ | ⟨.startStep _ _, _⟩
  | ⟨.recordChunk _ _ _, _⟩ | ⟨.finishStep _ _ _, _⟩
  | ⟨.finish _ _ _, _⟩ | ⟨.run _, _⟩ =>
      inferInstanceAs (Decidable True)

@[simp] theorem mem_runningOf {e : Execution} :
    e ∈ engine.runningOf job
      ↔ (e ∈ engine.executions ∧ e.job = job) ∧ e.isRunning = true := by
  unfold runningOf
  rw [List.mem_filter, mem_executionsOf]

-- ======================================================= nothing is revived

/-- A change within the rule makes nothing run that did not. -/
theorem Makes.running_of_running {e : Execution} {change : Change}
    (hm : Makes engine turn e change) (hrule : Conclusive engine turn)
    (hr : (change.on e turn.now).isRunning = true) :
    e.isRunning = true := by
  obtain ⟨act, now⟩ := turn
  cases hm with
  | call hc =>
      cases hc with
      | stopDriven hrun _ => exact hrun
      | stopFree hrun _ => exact hrun
      | startStep name => exact hr
      | recordChunk items hs => exact hr
      | finishStep status hs => exact hr
      | finish status exit =>
          have hended : status.isRunning = false := hrule
          have hr : status.isRunning = true := hr
          rw [hended] at hr
          cases hr
  | move ha _ hm =>
      cases hm with
      | endStopped _ _ _ => cases hr
      | endCompleted _ _ _ => cases hr
      | openStep _ _ => exact hr
      | chunk _ _ _ => exact hr
      | lastChunk _ _ _ => exact hr
      | closeStep _ _ => exact hr
      | halt _ => cases hr

-- ============================================================ one at a time

/-- No two executions of the job run. -/
def Alone (engine : Engine) (job : String) : Prop :=
  ∀ x ∈ engine.runningOf job, ∀ y ∈ engine.runningOf job, x.id = y.id

/-- Where no two run, at most one is listed. -/
theorem Alone.length_le (ha : engine.Alone job) (hn : engine.Numbered) :
    (engine.runningOf job).length ≤ 1 :=
  hn.length_le_one (List.filter_sublist.trans List.filter_sublist) ha

/-- A restart that goes ahead answers with the new execution, which is
of the job of the old one. -/
theorem restart_answer {id i : Int} {e : Execution} {d : JobDefinition}
    (hr : engine.restartable id = .ok (e, i, d)) (now : Instant) :
    ∃ x, (engine.restart id now).1 = .ok x ∧ x.job = e.job := by
  unfold restart
  rw [hr]
  refine ⟨_, rfl, ?_⟩
  unfold begin
  dsimp only
  split <;> rfl

/-- Where an execution is begun within the rule, none of the job runs. -/
theorem Opens.idle {engine₀ : Engine} {i : Int} {parameters : Dict}
    {steps : List String} {d : JobDefinition}
    (ho : Opens engine turn.act engine₀ job i parameters steps)
    (hd : engine.definition? job = some d) (hc : d.concurrent = false)
    (hrule : SoloRestarts job engine turn) : engine.runningOf job = [] := by
  obtain ⟨act, now⟩ := turn
  have hlaunch : ∀ {parameters : Dict} {d' : JobDefinition},
      engine.launchable job parameters = .ok d' →
      engine.runningOf job = [] := by
    intro parameters d' hl
    obtain ⟨hd', -, -, hidle⟩ := launchable_eq_ok.1 hl
    rw [hd] at hd'
    injection hd' with hd'
    subst hd'
    unfold runningOf
    rw [List.filter_eq_nil_iff]
    intro x hx
    simp [hidle hc x hx]
  cases ho with
  | join hl _ _ => exact hlaunch hl
  | found hl _ => exact hlaunch hl
  | restart hr =>
      obtain ⟨x, hx, hjob⟩ := restart_answer hr now
      have hrule : engine.Solo _ (engine.restart _ now).1 := hrule
      rw [hx] at hrule
      exact List.isEmpty_iff.1 (hrule hjob)

/-- An effect within the rules keeps a non-concurrent job to one
execution at a time. -/
theorem Effect.alone (heff : Effect engine turn next)
    {d : JobDefinition} (hd : engine.definition? job = some d)
    (hc : d.concurrent = false) (hcon : Conclusive engine turn)
    (hsolo : SoloRestarts job engine turn) (ha : engine.Alone job) :
    next.Alone job := by
  -- a running execution is one from before, or the turn began it while
  -- none of the job ran
  have hfrom : ∀ x ∈ next.runningOf job,
      (∃ y ∈ engine.runningOf job, y.id = x.id)
        ∨ (x.id = engine.lastExecution + 1
            ∧ engine.runningOf job = []) := by
    intro x hx
    obtain ⟨⟨hmem, hjob⟩, hrun⟩ := mem_runningOf.1 hx
    cases heff.origin hmem with
    | kept hx => exact .inl ⟨x, mem_runningOf.2 ⟨⟨hx, hjob⟩, hrun⟩, rfl⟩
    | @changed e change he hm hxe =>
        subst hxe
        rw [Change.on_job] at hjob
        refine .inl ⟨e, mem_runningOf.2 ⟨⟨he, hjob⟩, ?_⟩, ?_⟩
        · exact hm.running_of_running hcon hrun
        · rw [Change.on_id]
    | @begun engine₀ job' i parameters steps ho hxe =>
        subst hxe
        have hjob : job' = job := hjob
        subst hjob
        exact .inr ⟨rfl, ho.idle hd hc hsolo⟩
  intro x hx y hy
  rcases hfrom x hx with ⟨x', hx', hidx⟩ | ⟨hidx, hnone⟩
  · rcases hfrom y hy with ⟨y', hy', hidy⟩ | ⟨-, hnone⟩
    · rw [← hidx, ← hidy]
      exact ha x' hx' y' hy'
    · rw [hnone] at hx'
      cases hx'
  · rcases hfrom y hy with ⟨y', hy', -⟩ | ⟨hidy, -⟩
    · rw [hnone] at hy'
      cases hy'
    · rw [hidx, hidy]

/-- A restart that goes ahead beside a running execution of its job
leaves two running. -/
theorem two_of_restart {id : Int} {now : Instant} {x : Execution}
    (hx : (engine.restart id now).1 = .ok x) (hjob : x.job = job)
    (hrun : engine.runningOf job ≠ []) :
    1 < ((engine.restart id now).2.runningOf job).length := by
  unfold restart at hx ⊢
  cases hr : engine.restartable id with
  | error failure =>
      rw [hr] at hx
      cases hx
  | ok found =>
      obtain ⟨e, i, d⟩ := found
      have hej : e.job = job := by
        obtain ⟨x', hx', hjob'⟩ := restart_answer hr now
        unfold restart at hx'
        rw [hx] at hx'
        injection hx' with hx'
        rw [← hjob', ← hx', hjob]
      dsimp only
      have hmore : (engine.begin e.job i e.parameters d.steps
          now).2.runningOf job = engine.runningOf job ++ [newRecord
            (engine.lastExecution + 1) e.job i e.parameters now] := by
        rw [begin_eq]
        unfold runningOf executionsOf
        rw [List.filter_append, List.filter_append]
        congr 1
        simp [newRecord, hej, Execution.isRunning, Status.isRunning]
      rw [hmore, List.length_append, List.length_singleton]
      have hpos := List.length_pos_iff.2 hrun
      omega

/-- A turn that leaves at most one running keeps to the rule. -/
theorem solo_of_length_le
    (hle : ((engine.take turn).runningOf job).length ≤ 1) :
    SoloRestarts job engine turn := by
  obtain ⟨act, now⟩ := turn
  cases act with
  | restart id =>
      unfold SoloRestarts
      dsimp only
      cases hx : (engine.restart id now).1 with
      | error failure => trivial
      | ok x =>
          intro hjob
          rw [List.isEmpty_iff]
          apply Classical.byContradiction
          intro hrun
          have htwo := two_of_restart hx hjob hrun
          have hle : ((engine.restart id now).2.runningOf job).length ≤ 1 :=
            hle
          omega
  | _ => trivial

-- ================================================================= the plays

/-- From any numbered engine in which the job is alone: it stays alone
exactly if its restarts find it idle. -/
private theorem alone_play_iff {d : JobDefinition} {turns : List Turn}
    (hn : engine.Numbered) (hd : engine.definition? job = some d)
    (hc : d.concurrent = false) (ha : engine.Alone job)
    (hf : Follows Conclusive engine turns) :
    (∀ cut, cut <+: turns →
        ((engine.play cut).runningOf job).length ≤ 1)
      ↔ Follows (SoloRestarts job) engine turns := by
  induction turns generalizing engine with
  | nil =>
      refine ⟨fun _ => trivial, fun _ cut hcut => ?_⟩
      rw [List.prefix_nil.1 hcut]
      exact ha.length_le hn
  | cons turn rest ih =>
      have heff := hn.effect turn
      have hd' : (engine.take turn).definition? job = some d := by
        unfold definition? at hd ⊢
        rw [heff.setup.1]
        exact hd
      constructor
      · intro hall
        have hsolo : SoloRestarts job engine turn :=
          solo_of_length_le (hall [turn] (List.prefix_append _ _))
        have ha' := heff.alone hd hc hf.1 hsolo ha
        refine ⟨hsolo, (ih (hn.take turn) hd' ha' hf.2).1 ?_⟩
        intro cut hcut
        exact hall (turn :: cut) (List.cons_prefix_cons.2 ⟨rfl, hcut⟩)
      · rintro ⟨hsolo, hrest⟩ cut hcut
        have ha' := heff.alone hd hc hf.1 hsolo ha
        cases cut with
        | nil => exact ha.length_le hn
        | cons turn' cut =>
            obtain ⟨rfl, hcut'⟩ := List.cons_prefix_cons.1 hcut
            exact (ih (hn.take _) hd' ha' hf.2).2 hrest cut hcut'

/-- A non-concurrent job has at most one running execution all along a
play exactly if every restart of it that goes ahead finds none running,
as long as executions are only ended with a status that has ended. -/
theorem alone_iff_solo_restarts {definitions : List JobDefinition}
    {pace : Option Nat} {turns : List Turn} {job : String}
    {d : JobDefinition}
    (hd : (fresh definitions pace).definition? job = some d)
    (hc : d.concurrent = false)
    (hf : Follows Conclusive (fresh definitions pace) turns) :
    (∀ cut, cut <+: turns →
        (((fresh definitions pace).play cut).runningOf job).length ≤ 1)
      ↔ Follows (SoloRestarts job) (fresh definitions pace) turns :=
  alone_play_iff (numbered_fresh definitions pace) hd hc
    (fun _ h => nomatch h) hf

-- ------------------------------------------------------------ an overlap

/-- An engine without runners that knows one job. -/
def exporting : Engine := fresh [{ name := "export" }] none

/-- The job is launched and stopped, launched with other parameters, and
restarted where it was stopped. -/
def lateRestart : List Turn :=
  [⟨.launch "export" (.ofList [("day", "1")]), 0, 0⟩, ⟨.stop 1, 1, 0⟩,
    ⟨.launch "export" (.ofList [("day", "2")]), 2, 0⟩,
    ⟨.restart 1, 3, 0⟩]

/-- The restart beside the second launch leaves two executions of a job
running that is not concurrent. -/
theorem lateRestart_overlaps :
    (exporting.definition? "export").map (·.concurrent) = some false
      ∧ Follows Conclusive exporting lateRestart
      ∧ ((exporting.play lateRestart).runningOf "export").map (·.id)
          = [2, 3] := by
  decide

/-- The same with the second execution stopped before the restart. -/
def soloRestart : List Turn :=
  lateRestart.take 3 ++ [⟨.stop 2, 3, 0⟩, ⟨.restart 1, 4, 0⟩]

/-- Restarted when its second execution has been stopped, the job is
alone all along. -/
theorem soloRestart_alone :
    (exporting.definition? "export").map (·.concurrent) = some false
      ∧ Follows Conclusive exporting soloRestart
      ∧ ∀ cut, cut <+: soloRestart →
          ((exporting.play cut).runningOf "export").length ≤ 1 :=
  ⟨by decide, by decide,
    (alone_iff_solo_restarts (d := { name := "export" }) rfl rfl
      (by decide)).2 (by decide)⟩

end BatchAdmin.Engine
