/-
What a runner may still do to an execution that was asked to stop.

A runner looks for a stop after each tick, so a stop finds it with some
work due before it looks: at most a chunk, if it is about to record one,
and at most a step, if it is between two steps or will be before the next
tick (`Phase.chunksDue`, `Phase.stepsDue`). While the execution is
stopping no move lets the work done and the work due grow together
(`Moves.due`), so both stay within what they came to at the stop
(`Winding`).

Work done is counted in the record itself: a step counts its chunks as it
commits them, and no change but a chunk touches the count (`chunks_on`).
-/
import BatchAdmin.Proofs.Engine.Steering

namespace BatchAdmin

-- ============================================================== work counted

/-- The chunks recorded in an execution. -/
def Execution.chunks (e : Execution) : Nat :=
  e.steps.foldr (fun s n => s.commitCount + n) 0

/-- The chunks that a runner may still record before it looks for a
stop. -/
def Phase.chunksDue : Phase → Nat
  | .recording _ _ => 1
  | _ => 0

/-- The steps that a runner may still start before it looks for a
stop. -/
def Phase.stepsDue : Phase → Nat
  | .starting | .recording _ _ | .closing _ => 1
  | .resting _ _ _ | .stopping => 0

namespace Engine

variable {engine next : Engine} {turn : Turn} {e : Execution}

/-- The chunks that a change records. -/
def Change.newChunks : Change → Nat
  | .chunk _ _ => 1
  | _ => 0

/-- The chunks in an execution after a change. -/
theorem chunks_on {change : Change} (now : Instant)
    (hn : engine.Numbered) (he : e ∈ engine.executions)
    (hf : change.Fits engine e) :
    (change.on e now).chunks = e.chunks + change.newChunks := by
  have hu : (e.steps.map (·.id)).Nodup :=
    nodup_of_rising (hn.steps e he)
  unfold Execution.chunks
  cases change with
  | mark => rfl
  | openStep id name =>
      show (e.steps ++ [_]).foldr _ 0 = _
      rw [List.foldr_append]
      rfl
  | chunk step items =>
      have hsum := sum_putStep (·.commitCount)
        (withChunk step items now) hu hf rfl
      have hone : (withChunk step items now).commitCount
          = step.commitCount + 1 := rfl
      show (e.putStep (withChunk step items now)).steps.foldr _ 0 = _ + 1
      omega
  | closeStep step status =>
      have hsum := sum_putStep (·.commitCount)
        (ended step status now) hu hf rfl
      have hsame : (ended step status now).commitCount
          = step.commitCount := rfl
      show (e.putStep (ended step status now)).steps.foldr _ 0 = _ + 0
      omega
  | close status exit =>
      show (e.steps.map _).foldr _ 0 = _
      rw [List.foldr_map]
      refine congrArg (e.steps.foldr · 0) (funext fun s => ?_)
      by_cases hs : s.status.isRunning = true
      · simp [hs, ended]
      · simp [hs]

/-- The steps of an execution after a change. -/
theorem length_steps_on (change : Change) (now : Instant) :
    (change.on e now).steps.length
      = e.steps.length + change.newStep.length := by
  have hids := congrArg List.length (stepIds_on e change now)
  rwa [List.length_map, List.length_append, List.length_map] at hids

-- ============================================================ work still due

/-- A move for an execution that is stopping does no more than was due,
and what it leaves due was due. -/
theorem Moves.due {r : Runner} {now : Instant} {change : Change}
    {left : Option Runner}
    (hm : Moves engine now e r (some change) left)
    (hs : e.status = .stopping) :
    change.newChunks ≤ r.phase.chunksDue
      ∧ change.newStep.length ≤ r.phase.stepsDue
      ∧ ∀ r', left = some r' →
          change.newChunks + r'.phase.chunksDue ≤ r.phase.chunksDue
          ∧ change.newStep.length + r'.phase.stepsDue
              ≤ r.phase.stepsDue := by
  cases hm with
  | endStopped _ _ _ => exact ⟨Nat.zero_le _, Nat.zero_le _, nofun⟩
  | endCompleted _ _ hne => exact absurd hs hne
  | openStep hp _ =>
      rw [hp]
      refine ⟨Nat.le_refl _, Nat.le_refl _, fun r' hr' => ?_⟩
      cases hr'
      exact ⟨Nat.le_refl _, Nat.le_refl _⟩
  | chunk hp _ _ =>
      rw [hp]
      refine ⟨Nat.le_refl _, Nat.zero_le _, fun r' hr' => ?_⟩
      cases hr'
      exact ⟨Nat.le_refl _, Nat.zero_le _⟩
  | lastChunk hp _ _ =>
      rw [hp]
      refine ⟨Nat.le_refl _, Nat.zero_le _, fun r' hr' => ?_⟩
      cases hr'
      exact ⟨Nat.le_refl _, Nat.le_refl _⟩
  | closeStep hp _ =>
      rw [hp]
      refine ⟨Nat.le_refl _, Nat.zero_le _, fun r' hr' => ?_⟩
      cases hr'
      exact ⟨Nat.le_refl _, Nat.le_refl _⟩
  | halt _ => exact ⟨Nat.zero_le _, Nat.zero_le _, nofun⟩

/-- A move without a change leaves nothing due if its execution is
stopping. -/
theorem Moves.due_none {r r' : Runner} {now : Instant}
    (hm : Moves engine now e r none (some r'))
    (hs : e.status = .stopping) :
    r'.phase.chunksDue = 0 ∧ r'.phase.stepsDue = 0 := by
  cases hm with
  | seeStop _ _ => exact ⟨rfl, rfl⟩
  | seeNone _ hne => exact absurd hs hne

/-- An execution was asked to stop, and what was done and is still due for
it stays within these counts. -/
def Winding (engine : Engine) (id : Int) (chunks steps : Nat) : Prop :=
  ∃ x ∈ engine.executions, x.id = id ∧ Yielding x
    ∧ x.chunks ≤ chunks ∧ x.steps.length ≤ steps
    ∧ ∀ r ∈ engine.runners, r.execution = id →
        x.chunks + r.phase.chunksDue ≤ chunks
        ∧ x.steps.length + r.phase.stepsDue ≤ steps

/-- The stop that finds an execution running leaves one chunk and one
step due. -/
theorem winding_of_stop {id : Int} (now : Instant)
    (hst : engine.Steered) (he : engine.execution? id = some e)
    (hrun : e.isRunning = true) :
    (engine.take ⟨.stop id, now⟩).Winding id (e.chunks + 1)
      (e.steps.length + 1) := by
  obtain ⟨hmem, hid⟩ := mem_of_execution? he
  subst hid
  have hstop : engine.take ⟨.stop e.id, now⟩ = engine.revise e .mark now :=
    stop_eq_mark he hrun (hst.attached e hmem hrun)
  rw [hstop]
  refine ⟨_, (mem_revise he).2 (.inr rfl), Change.on_id .., .inl rfl,
    Nat.le_succ _, Nat.le_succ _, fun r _ _ => ⟨?_, ?_⟩⟩
  · show e.chunks + r.phase.chunksDue ≤ e.chunks + 1
    have hdue : r.phase.chunksDue ≤ 1 := by
      cases r.phase <;> simp [Phase.chunksDue]
    omega
  · show e.steps.length + r.phase.stepsDue ≤ e.steps.length + 1
    have hdue : r.phase.stepsDue ≤ 1 := by
      cases r.phase <;> simp [Phase.stepsDue]
    omega

/-- A move of its own runner keeps an execution within its counts. -/
private theorem Winding.moved {r : Runner} {change : Option Change}
    {left : Option Runner} {now : Instant} {chunks steps : Nat}
    (hw : engine.Winding e.id chunks steps) (ha : engine.Attended)
    (he : engine.execution? e.id = some e)
    (hr : engine.runner? e.id = some r)
    (hm : Moves engine now e r change left)
    (hy : ∀ c, change = some c → Yielding (c.on e now)) :
    ((engine.reviseBy e now change).keepRunner e.id left).Winding e.id
      chunks steps := by
  have hmem := (mem_of_execution? he).1
  have hrun := ha.driving.runs ha.numbered hmem hr
  obtain ⟨hat, hrid⟩ := mem_of_runner? hr
  obtain ⟨x, hx, hid, hyield, hchunks, hsteps, hdue⟩ := hw
  have hxe := ha.numbered.eq_of_id_eq hx hmem hid
  subst hxe
  have hstopping := hyield.stopping hrun
  obtain ⟨hdueC, hdueS⟩ := hdue r hat hrid
  cases change with
  | none =>
      refine ⟨x, hx, rfl, hyield, hchunks, hsteps, fun r' hr' _ => ?_⟩
      rcases mem_keepRunner.1 hr' with ⟨_, hne⟩ | ⟨rfl, -⟩
      · contradiction
      · obtain ⟨hc, hs⟩ := hm.due_none hstopping
        rw [hc, hs]
        exact ⟨hchunks, hsteps⟩
  | some change =>
      obtain ⟨hc, hs, hleft⟩ := hm.due hstopping
      have hchunksOn := chunks_on now ha.numbered hmem hm.fits
      have hstepsOn := length_steps_on (e := x) change now
      refine ⟨_, (mem_revise he).2 (.inr rfl), Change.on_id ..,
        hy change rfl, by omega, by omega, fun r' hr' _ => ?_⟩
      rcases mem_keepRunner.1 hr' with ⟨_, hne⟩ | ⟨rfl, -⟩
      · contradiction
      · obtain ⟨hc', hs'⟩ := hleft r' rfl
        omega

/-- No effect takes an execution that was asked to stop beyond its
counts. -/
theorem Effect.winding (heff : Effect engine turn next)
    (ha : engine.Attended) (hst : engine.Steered)
    (hrule : SelfDriven engine turn) {id : Int} {chunks steps : Nat}
    (hw : engine.Winding id chunks steps) :
    next.Winding id chunks steps := by
  cases heff with
  | quiet => exact hw
  | wasted => exact hw
  | @called e change he hc =>
      have hmem := (mem_of_execution? he).1
      obtain ⟨x, hx, hid, hyield, hchunks, hsteps, hdue⟩ := hw
      by_cases hxe : x.id = e.id
      · have hxe := ha.numbered.eq_of_id_eq hx hmem hxe
        subst hxe
        have hyield' :=
          (Makes.call hc).course hx ha hst hrule |>.yielding hyield
        -- a call records no chunk and starts no step
        obtain ⟨-, hmark, -⟩ := hc.asked hx hst hrule
        have hc0 : change.newChunks = 0 := by rw [hmark]; rfl
        have hs0 : change.newStep.length = 0 := by rw [hmark]; rfl
        have hchunksOn := chunks_on turn.now ha.numbered hx hc.fits
        have hstepsOn := length_steps_on (e := x) change turn.now
        refine ⟨_, (mem_revise he).2 (.inr rfl), ?_, hyield', by omega,
          by omega, fun r hr hrid => ?_⟩
        · rw [Change.on_id]
          exact hid
        · have hd := hdue r hr hrid
          omega
      · exact ⟨x, (mem_revise he).2 (.inl ⟨hx, hxe⟩), hid, hyield,
          hchunks, hsteps, hdue⟩
  | @moved e r change left hact he hr hm =>
      by_cases hid : id = e.id
      · subst hid
        refine hw.moved ha he hr hm fun c hc => ?_
        subst hc
        have hmem := (mem_of_execution? he).1
        obtain ⟨x, hx, hxid, hyield, -⟩ := hw
        have hxe := ha.numbered.eq_of_id_eq hx hmem hxid
        subst hxe
        exact ((Makes.move hact hr hm).course hx ha hst hrule).yielding
          hyield
      · -- another execution's runner
        obtain ⟨x, hx, hxid, hyield, hchunks, hsteps, hdue⟩ := hw
        have hne : x.id ≠ e.id := hxid ▸ hid
        refine ⟨x, mem_reviseBy_of_ne he hx hne change, hxid, hyield,
          hchunks, hsteps, fun r' hr' hr'id => ?_⟩
        rcases mem_keepRunner.1 hr' with ⟨hr', -⟩ | ⟨rfl, -⟩
        · rw [runners_reviseBy] at hr'
          exact hdue r' hr' hr'id
        · have hrid := hm.execution.trans (mem_of_runner? hr).2
          exact absurd (hr'id.symm.trans hrid) hid
  | @begun engine₀ job i parameters todo ho =>
      obtain ⟨hex, hlast, -, -, hruns, -⟩ := ho.same
      obtain ⟨x, hx, hxid, hyield, hchunks, hsteps, hdue⟩ := hw
      refine ⟨x, mem_begin.2 (.inl (hex ▸ hx)), hxid, hyield, hchunks,
        hsteps, fun r hr hrid => ?_⟩
      rcases mem_runners_begin.1 hr with hr | ⟨-, rfl⟩
      · exact hdue r (hruns ▸ hr) hrid
      · have hle := ha.numbered.executions_le x hx
        have hrid : engine₀.lastExecution + 1 = id := hrid
        omega

end Engine

end BatchAdmin
