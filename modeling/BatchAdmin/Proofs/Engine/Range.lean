/-
The range of the ids.

Ids are counted up from one, so as long as the counters can be written as
signed words, so can all ids (`inRange_of_pos`): a client can name each
record by a number that the gateway reads.
-/
import BatchAdmin.Proofs.Engine.Identity
import BatchAdmin.Text.Numeral

namespace BatchAdmin.Engine

open Text (minSigned maxSigned)

variable {engine next : Engine} {e : Execution} {now : Instant}
  {turn : Turn}

-- ============================================================ the invariant

/-- Ids are counted up from one. -/
structure Counted (engine : Engine) : Prop where
  lastInstance : 0 ≤ engine.lastInstance
  lastExecution : 0 ≤ engine.lastExecution
  lastStep : 0 ≤ engine.lastStep
  instances : ∀ i ∈ engine.instances, 0 < i.id
  executions : ∀ e ∈ engine.executions, 0 < e.id
  steps : ∀ e ∈ engine.executions, ∀ s ∈ e.steps, 0 < s.id

theorem counted_fresh (definitions : List JobDefinition)
    (pace : Option Nat) : (fresh definitions pace).Counted where
  lastInstance := Int.le_refl 0
  lastExecution := Int.le_refl 0
  lastStep := Int.le_refl 0
  instances := fun _ h => nomatch h
  executions := fun _ h => nomatch h
  steps := fun _ h => nomatch h

/-- A change counts on. -/
theorem Counted.revise {change : Change} (hc : engine.Counted)
    (he : engine.execution? e.id = some e)
    (hf : change.Fits engine e) : (engine.revise e change now).Counted := by
  have hmem := (mem_of_execution? he).1
  refine ⟨hc.lastInstance, hc.lastExecution,
    Int.le_trans hc.lastStep hf.lastStep_le, hc.instances, ?_, ?_⟩
  · intro x hx
    rcases (mem_revise he).1 hx with ⟨hx, -⟩ | rfl
    · exact hc.executions x hx
    · rw [Change.on_id]
      exact hc.executions e hmem
  · intro x hx s hs
    rcases (mem_revise he).1 hx with ⟨hx, -⟩ | rfl
    · exact hc.steps x hx s hs
    · rcases stepId_on hf hs with ⟨s₀, hs₀, hid⟩ | hnew
      · exact hid ▸ hc.steps e hmem s₀ hs₀
      · have hlast := hc.lastStep
        omega

/-- A new execution has the next id. -/
theorem Counted.begin {job : String} {i : Int} {parameters : Dict}
    {steps : List String} (hc : engine.Counted) :
    (engine.begin job i parameters steps now).2.Counted := by
  have hlast := hc.lastExecution
  refine ⟨?_, ?_, ?_, ?_, ?_, ?_⟩
  · rw [begin_eq]
    exact hc.lastInstance
  · rw [begin_eq]
    show 0 ≤ engine.lastExecution + 1
    omega
  · rw [begin_eq]
    exact hc.lastStep
  · rw [begin_eq]
    exact hc.instances
  · intro x hx
    rcases mem_begin.1 hx with hx | rfl
    · exact hc.executions x hx
    · show 0 < engine.lastExecution + 1
      omega
  · intro x hx
    rcases mem_begin.1 hx with hx | rfl
    · exact hc.steps x hx
    · exact fun s hs => nomatch hs

/-- So has a new instance. -/
theorem Counted.addInstance {job : String} {parameters : Dict}
    (hc : engine.Counted) :
    (engine.addInstance job parameters).2.Counted := by
  have hlast := hc.lastInstance
  refine ⟨?_, hc.lastExecution, hc.lastStep, ?_, hc.executions, hc.steps⟩
  · show 0 ≤ engine.lastInstance + 1
    omega
  · intro i hi
    rcases List.mem_append.1 hi with hi | hi
    · exact hc.instances i hi
    · rw [List.mem_singleton.1 hi]
      show 0 < engine.lastInstance + 1
      omega

theorem Opens.counted {act : Act} {engine₀ : Engine} {job : String}
    {i : Int} {parameters : Dict} {steps : List String}
    (ho : Opens engine act engine₀ job i parameters steps)
    (hc : engine.Counted) : engine₀.Counted := by
  cases ho with
  | join _ _ _ => exact hc
  | found _ _ => exact hc.addInstance
  | restart _ => exact hc

-- ================================================================== a play

/-- Every effect counts on. -/
theorem Effect.counted (heff : Effect engine turn next)
    (hc : engine.Counted) : next.Counted := by
  cases heff with
  | quiet => exact hc
  | wasted =>
      refine ⟨hc.lastInstance, hc.lastExecution, ?_, hc.instances,
        hc.executions, hc.steps⟩
      have hlast := hc.lastStep
      show 0 ≤ engine.lastStep + 1
      omega
  | called he hcall => exact hc.revise he hcall.fits
  | @moved e r change left ha he hr hm =>
      have hrev : (engine.reviseBy e turn.now change).Counted := by
        cases change with
        | none => exact hc
        | some change => exact hc.revise he hm.fits
      exact ⟨hrev.lastInstance, hrev.lastExecution, hrev.lastStep,
        hrev.instances, hrev.executions, hrev.steps⟩
  | begun ho => exact (ho.counted hc).begin

/-- Every play counts on. -/
theorem Counted.play (hc : engine.Counted) (hn : engine.Numbered)
    (turns : List Turn) : (engine.play turns).Counted := by
  have hboth : (engine.play turns).Numbered ∧ (engine.play turns).Counted :=
    play_keeps (P := fun engine => engine.Numbered ∧ engine.Counted)
      (fun _ turn h _ => ⟨h.1.take turn, (h.1.effect turn).counted h.2⟩)
      ⟨hn, hc⟩ (follows_anything turns)
  exact hboth.2

theorem counted_play (definitions : List JobDefinition)
    (pace : Option Nat) (turns : List Turn) :
    ((fresh definitions pace).play turns).Counted :=
  (counted_fresh definitions pace).play (numbered_fresh definitions pace)
    turns

-- =============================================================== the range

/-- The counters can be written as signed words. -/
structure Short (engine : Engine) : Prop where
  lastInstance : engine.lastInstance ≤ maxSigned
  lastExecution : engine.lastExecution ≤ maxSigned
  lastStep : engine.lastStep ≤ maxSigned

/-- A number that can be written as a signed word. -/
def InRange (id : Int) : Prop := minSigned ≤ id ∧ id ≤ maxSigned

theorem inRange_of_pos {id last : Int} (hpos : 0 < id) (hle : id ≤ last)
    (hlast : last ≤ maxSigned) : InRange id := by
  refine ⟨?_, Int.le_trans hle hlast⟩
  unfold minSigned
  omega

section InRange

variable (hn : engine.Numbered) (hc : engine.Counted) (hs : engine.Short)

include hn hc hs

theorem inRange_instance {i : JobInstance} (hi : i ∈ engine.instances) :
    InRange i.id :=
  inRange_of_pos (hc.instances i hi) (hn.instances_le i hi) hs.lastInstance

theorem inRange_execution (he : e ∈ engine.executions) : InRange e.id :=
  inRange_of_pos (hc.executions e he) (hn.executions_le e he)
    hs.lastExecution

theorem inRange_step (he : e ∈ engine.executions) {s : StepExecution}
    (hmem : s ∈ e.steps) : InRange s.id :=
  inRange_of_pos (hc.steps e he s hmem) (hn.steps_le e he s hmem)
    hs.lastStep

end InRange

end BatchAdmin.Engine
