/-
Executions that have ended.

Callers who keep to what the calls are for (`Documented`) report only on
executions that run, and end only such. Of an execution that has ended
and has no runner nothing changes any more, to the last time stamp
(`Final`): neither a stop nor a report touches it, and no runner is there
to. Nor does a step of it run (`Tidy`), since every way of ending an
execution ends what still runs in it.

That it has no runner is not for granted: ending an execution from
outside does not end its runner. What a runner does to an execution that
has ended is told in Overwriting.
-/
import BatchAdmin.Proofs.Engine.Attendance

namespace BatchAdmin.Engine

variable {engine next : Engine} {turn : Turn}

-- ================================================================= the rule

/-- Reports are about executions that run; only such are ended, with a
status that has ended. -/
def Documented : Rule := fun engine turn =>
  match turn.act with
  | .startStep id _ | .recordChunk id _ _ | .finishStep id _ _ =>
      engine.runs id = true
  | .finish id status _ =>
      engine.runs id = true ∧ status.isRunning = false
  | _ => True

instance (engine : Engine) : ∀ turn, Decidable (Documented engine turn)
  | ⟨.startStep id _, _⟩ | ⟨.recordChunk id _ _, _⟩
  | ⟨.finishStep id _ _, _⟩ =>
      inferInstanceAs (Decidable (engine.runs id = true))
  | ⟨.finish id status _, _⟩ =>
      inferInstanceAs (Decidable (engine.runs id = true
        ∧ status.isRunning = false))
  | ⟨.launch _ _, _⟩ | ⟨.stop _, _⟩ | ⟨.restart _, _⟩ | ⟨.run _, _⟩ =>
      inferInstanceAs (Decidable True)

/-- A call within the rule changes only an execution that runs. -/
theorem Calls.running {e : Execution} {change : Change}
    (hc : Calls engine e turn.act change)
    (he : engine.execution? e.id = some e)
    (hrule : Documented engine turn) : e.isRunning = true := by
  have hruns : engine.runs e.id = true → e.isRunning = true := by
    intro h
    obtain ⟨x, hx, hrun⟩ := runs_eq_true.1 h
    rw [he] at hx
    injection hx with hx
    rw [hx]
    exact hrun
  obtain ⟨act, now⟩ := turn
  cases hc with
  | stopDriven hrun _ => exact hrun
  | stopFree hrun _ => exact hrun
  | startStep _ => exact hruns hrule
  | recordChunk _ _ => exact hruns hrule
  | finishStep _ _ => exact hruns hrule
  | finish _ _ => exact hruns hrule.1

-- ======================================================== without a runner

/-- The execution is there, has ended, and has no runner. -/
structure Final (engine : Engine) (x : Execution) : Prop where
  there : x ∈ engine.executions
  ended : x.isRunning = false
  free : ∀ r ∈ engine.runners, r.execution ≠ x.id

/-- What has ended and has no runner is left as it is, record and all,
by whatever is done within the rule. -/
theorem Effect.final (heff : Effect engine turn next)
    (hn : engine.Numbered) (hrule : Documented engine turn)
    {x : Execution} (hf : engine.Final x) : next.Final x := by
  cases heff with
  | quiet => exact hf
  | wasted => exact ⟨hf.there, hf.ended, hf.free⟩
  | @called e change he hc =>
      refine ⟨(mem_revise he).2 (.inl ⟨hf.there, fun hid => ?_⟩), hf.ended,
        hf.free⟩
      have hxe := hn.eq_of_id_eq hf.there (mem_of_execution? he).1 hid
      have hrun := hc.running he hrule
      rw [← hxe, hf.ended] at hrun
      cases hrun
  | @moved e r change left _ he hr hm =>
      obtain ⟨hmem, hrid⟩ := mem_of_runner? hr
      have hne : x.id ≠ e.id := fun hid =>
        hf.free r hmem (hrid.trans hid.symm)
      refine ⟨mem_reviseBy_of_ne he hf.there hne change, hf.ended,
        fun r' hr' => ?_⟩
      rcases mem_keepRunner.1 hr' with ⟨hr', -⟩ | ⟨rfl, -⟩
      · rw [runners_reviseBy] at hr'
        exact hf.free r' hr'
      · rw [hm.execution, hrid]
        exact hne.symm
  | @begun engine₀ job i parameters steps ho =>
      obtain ⟨hex, hlast, -, -, hruns, -⟩ := ho.same
      refine ⟨mem_begin.2 (.inl (hex ▸ hf.there)), hf.ended,
        fun r hr => ?_⟩
      rcases mem_runners_begin.1 hr with hr | ⟨-, rfl⟩
      · exact hf.free r (hruns ▸ hr)
      · have hle := hn.executions_le x hf.there
        show engine₀.lastExecution + 1 ≠ x.id
        omega

/-- It is left so by any play within the rule. -/
theorem Final.play {x : Execution} (hf : engine.Final x)
    (hn : engine.Numbered) {turns : List Turn}
    (hrule : Follows Documented engine turns) :
    (engine.play turns).Final x := by
  refine (play_keeps (P := fun engine => engine.Numbered ∧ engine.Final x)
    (fun engine turn h hrule => ⟨h.1.take turn, ?_⟩) ⟨hn, hf⟩ hrule).2
  exact (h.1.effect turn).final h.1 hrule h.2

/-- Nothing runs in an execution that has ended and has no runner. -/
def Tidy (engine : Engine) : Prop :=
  ∀ x, engine.Final x → ∀ s ∈ x.steps, s.status.isRunning = false

/-- Ending an execution ends what still runs in it. -/
theorem steps_closed {e : Execution} {status : Status} {exit : ExitStatus}
    {now : Instant} (hs : status.isRunning = false) :
    ∀ s ∈ (closed e status exit now).steps, s.status.isRunning = false :=
  forall_closed (fun _ _ hended => hended) (fun _ _ _ => hs)

/-- What a call within the rule has ended has no running step. -/
private theorem Calls.tidy {e : Execution} {change : Change}
    (hc : Calls engine e turn.act change)
    (he : engine.execution? e.id = some e)
    (hrule : Documented engine turn)
    (hended : (change.on e turn.now).isRunning = false) :
    ∀ s ∈ (change.on e turn.now).steps, s.status.isRunning = false := by
  have hrun := hc.running he hrule
  have hcontra : (change.on e turn.now).isRunning = e.isRunning →
      False := by
    intro h
    rw [hended, hrun] at h
    cases h
  obtain ⟨act, now⟩ := turn
  cases hc with
  | stopDriven _ _ => cases hended
  | stopFree _ _ => exact steps_closed rfl
  | startStep _ => exact (hcontra rfl).elim
  | recordChunk _ _ => exact (hcontra rfl).elim
  | finishStep _ _ => exact (hcontra rfl).elim
  | finish _ _ => exact steps_closed hrule.2

/-- A runner's last move ends the execution. -/
theorem Moves.last {e : Execution} {r : Runner}
    {change : Option Change} {now : Instant}
    (hm : Moves engine now e r change none) :
    ∃ status exit, change = some (.close status exit)
      ∧ status.isRunning = false := by
  cases hm with
  | endStopped _ _ _ => exact ⟨_, _, rfl, rfl⟩
  | endCompleted _ _ _ => exact ⟨_, _, rfl, rfl⟩
  | halt _ => exact ⟨_, _, rfl, rfl⟩

/-- No effect within the rule leaves a step running in an execution that
has ended and has no runner. -/
theorem Effect.tidy (heff : Effect engine turn next)
    (hrule : Documented engine turn) (ht : engine.Tidy) : next.Tidy := by
  intro x hx
  cases heff with
  | quiet => exact ht x hx
  | wasted => exact ht x ⟨hx.there, hx.ended, hx.free⟩
  | called he hc =>
      rcases (mem_revise he).1 hx.there with ⟨hmem, -⟩ | rfl
      · exact ht x ⟨hmem, hx.ended, hx.free⟩
      · exact hc.tidy he hrule hx.ended
  | @moved e r change left _ he hr hm =>
      obtain ⟨hat, hrid⟩ := mem_of_runner? hr
      by_cases hid : x.id = e.id
      · -- its runner is gone, so this was the runner's last move
        have hgone : left = none := by
          cases left with
          | none => rfl
          | some r' =>
              have hr' : r' ∈ ((engine.reviseBy e turn.now
                  change).keepRunner e.id (some r')).runners :=
                mem_keepRunner.2 (.inr ⟨rfl, r, by simpa using hat, hrid⟩)
              have hr'id := hm.execution.trans (hrid.trans hid.symm)
              exact absurd hr'id (hx.free r' hr')
        subst hgone
        obtain ⟨status, exit, rfl, hs⟩ := hm.last
        rcases (mem_revise he).1 hx.there with ⟨-, hne⟩ | hxe
        · exact absurd hid hne
        · rw [hxe]
          exact steps_closed hs
      · refine ht x ⟨?_, hx.ended, fun r' hr' hr'id => ?_⟩
        · have hthere := hx.there
          cases change with
          | none => exact hthere
          | some change =>
              rcases (mem_revise he).1 hthere with ⟨hmem, -⟩ | rfl
              · exact hmem
              · exact absurd (Change.on_id ..) hid
        · refine hx.free r' (mem_keepRunner.2 (.inl ⟨?_, ?_⟩)) hr'id
          · rw [runners_reviseBy]
            exact hr'
          · rw [hr'id]
            exact hid
  | @begun engine₀ job i parameters steps ho =>
      obtain ⟨hex, -, -, -, hruns, -⟩ := ho.same
      rcases mem_begin.1 hx.there with hmem | rfl
      · refine ht x ⟨hex ▸ hmem, hx.ended, fun r hr => ?_⟩
        exact hx.free r (mem_runners_begin.2 (.inl (hruns.symm ▸ hr)))
      · cases hx.ended

/-- Nothing runs at the end of a play within the rule in an execution that
has ended and has no runner. -/
theorem tidy_play {definitions : List JobDefinition} {pace : Option Nat}
    {turns : List Turn}
    (hf : Follows Documented (fresh definitions pace) turns) :
    ((fresh definitions pace).play turns).Tidy := by
  refine (play_keeps (P := fun engine => engine.Numbered ∧ engine.Tidy)
    (fun engine turn h hrule => ⟨h.1.take turn, ?_⟩)
    ⟨numbered_fresh definitions pace, fun x hx => nomatch hx.there⟩ hf).2
  exact (h.1.effect turn).tidy hrule h.2

end BatchAdmin.Engine
