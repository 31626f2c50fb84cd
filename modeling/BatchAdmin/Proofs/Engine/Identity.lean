/-
What the engine's records say of one another.

Three lists and three counters make up the state of the engine, and the
records refer to each other by ids: an execution to its instance, a step
to its execution. `Consistent` puts into one statement what every
look-up, filter and history relies on: each record is what its id finds
and no id is above its counter; an instance is its job with its
parameters, and no other instance is; an execution belongs to an
instance of its job, which clients may launch, and has the parameters of
the instance; a step belongs to the execution that holds it, and no step
id is used twice. `consistent_play` says so for every play, without any
rule.

Numbering has the part about ids and counters. What is left is `Tied`,
and it is carried in the same way: by one lemma about a change to an
execution (`Tied.revise`) and one about a new execution (`Tied.begin`).
-/
import BatchAdmin.Proofs.Engine.Lineage

namespace BatchAdmin.Engine

variable {engine next : Engine} {e : Execution} {now : Instant}
  {turn : Turn}

-- ============================================================ the invariant

/-- Clients may launch the job. -/
def Launchable (engine : Engine) (job : String) : Prop :=
  ∃ d, engine.definition? job = some d ∧ d.launchable = true

/-- Every step names the execution that holds it. -/
def Holds (e : Execution) : Prop :=
  ∀ s ∈ e.steps, s.executionId = e.id

/-- What ties the records to one another, besides the order of their
ids. -/
structure Tied (engine : Engine) : Prop where
  single : ∀ i ∈ engine.instances, ∀ j ∈ engine.instances,
    i.job = j.job → i.identifying = j.identifying → i = j
  launchable : ∀ e ∈ engine.executions, engine.Launchable e.job
  holds : ∀ e ∈ engine.executions, Holds e
  apart : ∀ x ∈ engine.executions, ∀ y ∈ engine.executions,
    ∀ s ∈ x.steps, ∀ t ∈ y.steps, s.id = t.id → x.id = y.id

/-- An engine that has run nothing has no records. -/
theorem tied_fresh (definitions : List JobDefinition)
    (pace : Option Nat) : (fresh definitions pace).Tied where
  single := fun _ h => nomatch h
  launchable := fun _ h => nomatch h
  holds := fun _ h => nomatch h
  apart := fun _ h => nomatch h

-- ================================================================= a change

/-- A change leaves every step with its execution. -/
theorem Holds.on {change : Change} (h : Holds e)
    (hf : change.Fits engine e) : Holds (change.on e now) := by
  cases change with
  | mark => exact h
  | openStep id name =>
      intro s hs
      rcases List.mem_append.1 hs with hs | hs
      · exact h s hs
      · rw [List.mem_singleton.1 hs]
        rfl
  | chunk step items => exact forall_putStep h (h step hf)
  | closeStep step status => exact forall_putStep h (h step hf)
  | close status exit =>
      exact forall_closed (fun s hs _ => h s hs) (fun s hs _ => h s hs)

/-- A step id after a change was in use before, or is the next one. -/
theorem stepId_on {change : Change} (hf : change.Fits engine e)
    {s : StepExecution} (hs : s ∈ (change.on e now).steps) :
    (∃ s₀ ∈ e.steps, s₀.id = s.id) ∨ s.id = engine.lastStep + 1 := by
  have hid : s.id ∈ (change.on e now).steps.map (·.id) :=
    List.mem_map_of_mem hs
  rw [stepIds_on, List.mem_append] at hid
  rcases hid with hid | hid
  · exact .inl (List.mem_map.1 hid)
  · exact .inr (hf.newStep hid).1

/-- A step of the changed execution has no id of a step elsewhere. -/
private theorem Tied.apart_on {change : Change} (ht : engine.Tied)
    (hn : engine.Numbered) (he : e ∈ engine.executions)
    (hf : change.Fits engine e) {x : Execution}
    (hx : x ∈ engine.executions) {s t : StepExecution}
    (hs : s ∈ (change.on e now).steps) (hxt : t ∈ x.steps)
    (hid : s.id = t.id) : e.id = x.id := by
  rcases stepId_on hf hs with ⟨s₀, hs₀, hid₀⟩ | hnew
  · exact ht.apart e he x hx s₀ hs₀ t hxt (hid₀.trans hid)
  · have hle := hn.steps_le x hx t hxt
    omega

/-- A change keeps the records tied. -/
theorem Tied.revise {change : Change} (ht : engine.Tied)
    (hn : engine.Numbered) (he : engine.execution? e.id = some e)
    (hf : change.Fits engine e) : (engine.revise e change now).Tied := by
  have hmem := (mem_of_execution? he).1
  refine ⟨ht.single, ?_, ?_, ?_⟩
  · intro x hx
    rcases (mem_revise he).1 hx with ⟨hx, -⟩ | rfl
    · exact ht.launchable x hx
    · rw [Change.on_job]
      exact ht.launchable e hmem
  · intro x hx
    rcases (mem_revise he).1 hx with ⟨hx, -⟩ | rfl
    · exact ht.holds x hx
    · exact (ht.holds e hmem).on hf
  · intro x hx y hy s hs t hyt hid
    rcases (mem_revise he).1 hx with ⟨hx, -⟩ | rfl
    · rcases (mem_revise he).1 hy with ⟨hy, -⟩ | rfl
      · exact ht.apart x hx y hy s hs t hyt hid
      · rw [Change.on_id]
        exact (ht.apart_on hn hmem hf hx hyt hs hid.symm).symm
    · rw [Change.on_id]
      rcases (mem_revise he).1 hy with ⟨hy, -⟩ | rfl
      · exact ht.apart_on hn hmem hf hy hs hyt hid
      · exact (Change.on_id ..).symm

-- ========================================================== a new execution

/-- A new execution of a job that clients may launch keeps the records
tied: it has no steps yet. -/
theorem Tied.begin {job : String} {i : Int} {parameters : Dict}
    {steps : List String} (ht : engine.Tied)
    (hjob : engine.Launchable job) :
    (engine.begin job i parameters steps now).2.Tied := by
  have hsame : (engine.begin job i parameters steps now).2.instances
        = engine.instances
      ∧ (engine.begin job i parameters steps now).2.definitions
        = engine.definitions := by
    rw [begin_eq]
    exact ⟨rfl, rfl⟩
  refine ⟨?_, ?_, ?_, ?_⟩
  · rw [hsame.1]
    exact ht.single
  · intro x hx
    unfold Launchable definition?
    rw [hsame.2]
    rcases mem_begin.1 hx with hx | rfl
    · exact ht.launchable x hx
    · exact hjob
  · intro x hx
    rcases mem_begin.1 hx with hx | rfl
    · exact ht.holds x hx
    · exact fun s hs => nomatch hs
  · intro x hx y hy s hs t hyt hid
    rcases mem_begin.1 hx with hx | rfl
    · rcases mem_begin.1 hy with hy | rfl
      · exact ht.apart x hx y hy s hs t hyt hid
      · cases hyt
    · cases hs

/-- An instance is founded only where none has the job and the
parameters. -/
theorem Tied.addInstance {job : String} {parameters : Dict}
    (ht : engine.Tied) (hnone : engine.instanceFor? job parameters = none) :
    (engine.addInstance job parameters).2.Tied := by
  have hother : ∀ i ∈ engine.instances, i.job = job →
      i.identifying ≠ parameters := by
    intro i hi hjob hpar
    have hno := List.find?_eq_none.1 hnone i hi
    rw [Bool.and_eq_true, beq_iff_eq, decide_eq_true_eq] at hno
    exact hno ⟨hjob, hpar⟩
  refine ⟨?_, ht.launchable, ht.holds, ht.apart⟩
  intro i hi j hj hjob hpar
  rcases List.mem_append.1 hi with hi | hi
  · rcases List.mem_append.1 hj with hj | hj
    · exact ht.single i hi j hj hjob hpar
    · rw [List.mem_singleton.1 hj] at hjob hpar
      exact absurd hpar (hother i hi hjob)
  · rcases List.mem_append.1 hj with hj | hj
    · rw [List.mem_singleton.1 hi] at hjob hpar
      exact absurd hpar.symm (hother j hj hjob.symm)
    · rw [List.mem_singleton.1 hi, List.mem_singleton.1 hj]

/-- The engine in which an execution is about to be begun is tied, and
clients may launch the job: a launch has looked, and a restart goes on
with an execution that was launched. -/
theorem Opens.tied {act : Act} {engine₀ : Engine} {job : String}
    {i : Int} {parameters : Dict} {steps : List String}
    (ho : Opens engine act engine₀ job i parameters steps)
    (ht : engine.Tied) : engine₀.Tied ∧ engine₀.Launchable job := by
  cases ho with
  | join hd _ _ =>
      obtain ⟨hdef, hl, -⟩ := launchable_eq_ok.1 hd
      exact ⟨ht, _, hdef, hl⟩
  | found hd hi =>
      obtain ⟨hdef, hl, -⟩ := launchable_eq_ok.1 hd
      exact ⟨ht.addInstance hi, _, hdef, hl⟩
  | restart hr =>
      obtain ⟨he, -⟩ := restartable_eq_ok.1 hr
      exact ⟨ht, ht.launchable _ (mem_of_execution? he).1⟩

-- ================================================================== a play

/-- No effect loosens the records. -/
theorem Effect.tied (heff : Effect engine turn next)
    (hn : engine.Numbered) (ht : engine.Tied) : next.Tied := by
  cases heff with
  | quiet => exact ht
  | wasted => exact ⟨ht.single, ht.launchable, ht.holds, ht.apart⟩
  | called he hc => exact ht.revise hn he hc.fits
  | @moved e r change left ha he hr hm =>
      have hrev : (engine.reviseBy e turn.now change).Tied := by
        cases change with
        | none => exact ht
        | some change => exact ht.revise hn he hm.fits
      exact ⟨hrev.single, hrev.launchable, hrev.holds, hrev.apart⟩
  | begun ho =>
      obtain ⟨ht₀, hjob⟩ := ho.tied ht
      exact ht₀.begin hjob

/-- No play loosens the records. -/
theorem Tied.play (ht : engine.Tied) (hn : engine.Numbered)
    (turns : List Turn) : (engine.play turns).Tied := by
  have hboth : (engine.play turns).Numbered ∧ (engine.play turns).Tied :=
    play_keeps (P := fun engine => engine.Numbered ∧ engine.Tied)
      (fun _ turn h _ => ⟨h.1.take turn, (h.1.effect turn).tied h.1 h.2⟩)
      ⟨hn, ht⟩ (follows_anything turns)
  exact hboth.2

-- =============================================================== in one word

/-- The records of an engine agree with one another and with its
counters. -/
structure Consistent (engine : Engine) : Prop where
  /-- An instance is what its id finds, and the counter has passed it. -/
  instances : ∀ i ∈ engine.instances,
    engine.instance? i.id = some i ∧ i.id ≤ engine.lastInstance
  /-- So with executions. -/
  executions : ∀ e ∈ engine.executions,
    engine.execution? e.id = some e ∧ e.id ≤ engine.lastExecution
  /-- So with the steps of an execution, each of which names it. -/
  steps : ∀ e ∈ engine.executions, ∀ s ∈ e.steps,
    e.step? s.id = some s ∧ s.id ≤ engine.lastStep
      ∧ s.executionId = e.id
  /-- A job and parameters are one instance at most. -/
  single : ∀ i ∈ engine.instances, ∀ j ∈ engine.instances,
    i.job = j.job → i.identifying = j.identifying → i = j
  /-- An execution is of an instance of its job with its parameters, and
  the job is defined and may be launched. -/
  belongs : ∀ e ∈ engine.executions,
    (∃ i, e.instanceId = some i.id ∧ engine.instance? i.id = some i
        ∧ i.job = e.job ∧ i.identifying = e.parameters)
      ∧ engine.Launchable e.job
  /-- No step id is used twice, in one execution or in two. -/
  stepIds : ((engine.executions.flatMap (·.steps)).map (·.id)).Nodup
  /-- Steps stand in the order in which they were started. -/
  rising : ∀ e ∈ engine.executions,
    (e.steps.map (·.id)).Pairwise (· < ·)

/-- No step id is used twice. -/
theorem Tied.nodup_stepIds (ht : engine.Tied) (hn : engine.Numbered) :
    ((engine.executions.flatMap (·.steps)).map (·.id)).Nodup := by
  rw [List.map_flatMap, List.nodup_flatMap]
  refine ⟨fun e he => nodup_of_rising (hn.steps e he), ?_⟩
  -- executions at different places have different ids
  refine (List.pairwise_map.1 hn.executions).imp_of_mem ?_
  intro x y hx hy hlt id hidx hidy
  obtain ⟨s, hs, rfl⟩ := List.mem_map.1 hidx
  obtain ⟨t, hyt, hid⟩ := List.mem_map.1 hidy
  have hsame := ht.apart x hx y hy s hs t hyt hid.symm
  omega

/-- Whatever is done to an engine that has run nothing, its records agree
with one another. -/
theorem consistent_play (definitions : List JobDefinition)
    (pace : Option Nat) (turns : List Turn) :
    ((fresh definitions pace).play turns).Consistent := by
  have hn := numbered_play definitions pace turns
  have ht := (tied_fresh definitions pace).play
    (numbered_fresh definitions pace) turns
  have hinst {i : JobInstance}
      (hi : i ∈ ((fresh definitions pace).play turns).instances) :=
    instance?_of_mem (nodup_of_rising hn.instances) hi
  refine ⟨?_, ?_, ?_, ht.single, ?_, ht.nodup_stepIds hn, hn.steps⟩
  · exact fun i hi => ⟨hinst hi, hn.instances_le i hi⟩
  · exact fun e he => ⟨hn.find he, hn.executions_le e he⟩
  · intro e he s hs
    exact ⟨step?_of_mem (nodup_of_rising (hn.steps e he)) hs,
      hn.steps_le e he s hs, ht.holds e he s hs⟩
  · intro e he
    obtain ⟨i, hi, hid, hjob, hpar⟩ := hn.belongs e he
    exact ⟨⟨i, hid, hinst hi, hjob, hpar⟩, ht.launchable e he⟩

end BatchAdmin.Engine
