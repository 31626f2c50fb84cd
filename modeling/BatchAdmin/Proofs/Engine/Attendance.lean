/-
Runners and the executions they answer for.

As long as nobody from outside ends an execution that a runner answers
for (`Unattended`), a runner and its execution end together: every
runner there is is answered for and its execution runs (`Driving`). The
only moves that end an execution are the last moves of its own runner,
and a stop leaves an execution with a runner to the runner.

From this, whoever changes an execution's status changes that of a
running one (`Makes.running_of_status_ne`), although neither a runner
nor a report looks at the status before it writes.
-/
import BatchAdmin.Proofs.Engine.Lineage

namespace BatchAdmin.Engine

variable {engine next : Engine} {turn : Turn}

/-- From outside only executions are ended that run and that no runner
answers for, and they are given a status that has ended. -/
def Unattended : Rule := fun engine turn =>
  match turn.act with
  | .finish id status _ =>
      engine.runs id = true ∧ id ∉ engine.attached
        ∧ status.isRunning = false
  | _ => True

instance (engine : Engine) : ∀ turn, Decidable (Unattended engine turn)
  | ⟨.finish id status _, _⟩ =>
      inferInstanceAs (Decidable (engine.runs id = true
        ∧ id ∉ engine.attached ∧ status.isRunning = false))
  | ⟨.launch _ _, _⟩ | ⟨.stop _, _⟩ | ⟨.restart _, _⟩
  | ⟨.startStep _ _, _⟩ | ⟨.recordChunk _ _ _, _⟩
  | ⟨.finishStep _ _ _, _⟩ | ⟨.run _, _⟩ =>
      inferInstanceAs (Decidable True)

/-- Every runner is answered for, and its execution runs. -/
def Driving (engine : Engine) : Prop :=
  ∀ r ∈ engine.runners, r.execution ∈ engine.attached
    ∧ ∃ e ∈ engine.executions, e.id = r.execution ∧ e.isRunning = true

/-- An engine that has run nothing has no runner. -/
theorem driving_fresh (definitions : List JobDefinition)
    (pace : Option Nat) : (fresh definitions pace).Driving :=
  fun _ h => nomatch h

/-- An execution with a runner runs. -/
theorem Driving.runs (hd : engine.Driving) (hn : engine.Numbered)
    {e : Execution} {r : Runner} (he : e ∈ engine.executions)
    (hr : engine.runner? e.id = some r) : e.isRunning = true := by
  obtain ⟨hmem, hrid⟩ := mem_of_runner? hr
  obtain ⟨-, x, hx, hxid, hrun⟩ := hd r hmem
  rw [← hn.eq_of_id_eq hx he (hxid.trans hrid)]
  exact hrun

/-- A change to one execution leaves the runners of the others in
order. -/
private theorem Driving.others {e : Execution} {change : Change}
    {now : Instant} (hd : engine.Driving)
    (he : engine.execution? e.id = some e) {r : Runner}
    (hr : r ∈ engine.runners) (hid : r.execution ≠ e.id) :
    r.execution ∈ (engine.revise e change now).attached
      ∧ ∃ x ∈ (engine.revise e change now).executions,
          x.id = r.execution ∧ x.isRunning = true := by
  obtain ⟨hatt, x, hx, hxid, hrun⟩ := hd r hr
  refine ⟨?_, x, (mem_revise he).2 (.inl ⟨hx, hxid ▸ hid⟩), hxid, hrun⟩
  show r.execution ∈ change.attached e.id engine.attached
  cases change with
  | close status exit =>
      exact List.mem_filter.2 ⟨hatt, by simpa using hid⟩
  | _ => exact hatt

/-- A change that does not end its execution leaves its runner in
order. -/
private theorem Driving.self {e : Execution} {change : Change}
    {now : Instant} (hatt : e.id ∈ engine.attached)
    (he : engine.execution? e.id = some e)
    (hopen : change.attached e.id engine.attached = engine.attached)
    (hrun : (change.on e now).isRunning = true) :
    e.id ∈ (engine.revise e change now).attached
      ∧ ∃ x ∈ (engine.revise e change now).executions,
          x.id = e.id ∧ x.isRunning = true := by
  refine ⟨?_, _, (mem_revise he).2 (.inr rfl), Change.on_id .., hrun⟩
  show e.id ∈ change.attached e.id engine.attached
  rw [hopen]
  exact hatt

/-- A call within the rule leaves the runner of its execution in
order: it does not end an execution with a runner. -/
private theorem Calls.driving {e : Execution} {change : Change}
    (hc : Calls engine e turn.act change)
    (hrule : Unattended engine turn) (hatt : e.id ∈ engine.attached)
    (hrun : e.isRunning = true) :
    change.attached e.id engine.attached = engine.attached
      ∧ (change.on e turn.now).isRunning = true := by
  obtain ⟨act, now⟩ := turn
  cases hc with
  | stopDriven _ _ => exact ⟨rfl, rfl⟩
  | stopFree _ hfree => exact absurd hatt hfree
  | startStep _ => exact ⟨rfl, hrun⟩
  | recordChunk _ _ => exact ⟨rfl, hrun⟩
  | finishStep _ _ => exact ⟨rfl, hrun⟩
  | finish _ _ => exact absurd hatt hrule.2.1

/-- A move that leaves a runner does not end the execution. -/
private theorem Moves.driving {e : Execution} {r r' : Runner}
    {change : Change} {now : Instant}
    (hm : Moves engine now e r (some change) (some r'))
    (hrun : e.isRunning = true) :
    change.attached e.id engine.attached = engine.attached
      ∧ (change.on e now).isRunning = true := by
  cases hm <;> exact ⟨rfl, hrun⟩

/-- No effect within the rule leaves a runner without a running
execution that it answers for. -/
theorem Effect.driving (heff : Effect engine turn next)
    (hn : engine.Numbered) (hd : engine.Driving)
    (hrule : Unattended engine turn) : next.Driving := by
  cases heff with
  | quiet => exact hd
  | wasted => exact hd
  | @called e change he hc =>
      intro r hr
      by_cases hid : r.execution = e.id
      · obtain ⟨hatt, x, hx, hxid, hrun⟩ := hd r hr
        have hxe := hn.eq_of_id_eq hx (mem_of_execution? he).1
          (hxid.trans hid)
        subst hxe
        rw [hid] at hatt ⊢
        obtain ⟨hopen, hrun'⟩ := hc.driving hrule hatt hrun
        exact Driving.self hatt he hopen hrun'
      · exact hd.others he hr hid
  | @moved e r change left ha he hr hm =>
      obtain ⟨hmem, hrid⟩ := mem_of_runner? hr
      intro r' hr'
      rcases mem_keepRunner.1 hr' with ⟨hr', hid⟩ | ⟨rfl, -⟩
      · cases change with
        | none => exact hd r' hr'
        | some change => exact hd.others he hr' hid
      · have hrid' : r'.execution = e.id := hm.execution.trans hrid
        obtain ⟨hatt, x, hx, hxid, hrun⟩ := hd r hmem
        have hxe := hn.eq_of_id_eq hx (mem_of_execution? he).1
          (hxid.trans hrid)
        subst hxe
        rw [hrid] at hatt
        rw [hrid']
        cases change with
        | none => exact ⟨hatt, x, hx, rfl, hrun⟩
        | some change =>
            obtain ⟨hopen, hrun'⟩ := hm.driving hrun
            exact Driving.self hatt he hopen hrun'
  | @begun engine₀ job i parameters steps ho =>
      obtain ⟨hex, hlast, hpace, hatt₀, hrun₀, -⟩ := ho.same
      intro r hr
      rcases mem_runners_begin.1 hr with hr | ⟨hp, rfl⟩
      · rw [hrun₀] at hr
        obtain ⟨hatt, x, hx, hxid, hrun⟩ := hd r hr
        refine ⟨?_, x, mem_begin.2 (.inl (hex ▸ hx)), hxid, hrun⟩
        rw [begin_eq]
        exact List.mem_append_left _ (hatt₀ ▸ hatt)
      · refine ⟨?_, _, mem_begin.2 (.inr rfl), rfl, rfl⟩
        rw [begin_eq]
        show _ ∈ engine₀.attached ++ (if _ then _ else _)
        rw [if_pos hp]
        exact List.mem_append_right _ (List.mem_singleton_self _)

/-- Whoever changes an execution's status within the rule changes that of
a running execution. -/
theorem Makes.running_of_status_ne {e : Execution} {change : Change}
    (hm : Makes engine turn e change) (he : e ∈ engine.executions)
    (hn : engine.Numbered) (hd : engine.Driving)
    (hrule : Unattended engine turn)
    (hs : change.status e.status ≠ e.status) : e.isRunning = true := by
  obtain ⟨act, now⟩ := turn
  cases hm with
  | call hc =>
      cases hc with
      | stopDriven hrun _ => exact hrun
      | stopFree hrun _ => exact hrun
      | startStep _ => exact absurd rfl hs
      | recordChunk _ _ => exact absurd rfl hs
      | finishStep _ _ => exact absurd rfl hs
      | finish status exit =>
          obtain ⟨x, hx, hrun⟩ := runs_eq_true.1 hrule.1
          rw [hn.find he] at hx
          injection hx with hx
          rw [hx]
          exact hrun
  | move _ hr _ => exact hd.runs hn he hr

/-- An execution that has ended keeps its status. -/
theorem Effect.ended_keeps (heff : Effect engine turn next)
    (hn : engine.Numbered) (hd : engine.Driving)
    (hrule : Unattended engine turn) {x : Execution}
    (hx : x ∈ engine.executions) (hended : x.isRunning = false) :
    ∃ y ∈ next.executions, y.id = x.id ∧ y.instanceId = x.instanceId
      ∧ y.status = x.status := by
  rcases heff.fate hn hx with hx' | ⟨change, hm, hx'⟩
  · exact ⟨x, hx', rfl, rfl, rfl⟩
  · refine ⟨_, hx', Change.on_id .., Change.on_instanceId .., ?_⟩
    rw [Change.on_status]
    apply Classical.byContradiction
    intro hs
    have hrun := hm.running_of_status_ne hx hn hd hrule hs
    rw [hended] at hrun
    cases hrun

-- ================================================================= the plays

/-- What a play within the rule starts from and never leaves. -/
structure Attended (engine : Engine) : Prop where
  numbered : engine.Numbered
  driving : engine.Driving

/-- It is what an engine that has run nothing is like. -/
theorem attended_fresh (definitions : List JobDefinition)
    (pace : Option Nat) : (fresh definitions pace).Attended :=
  ⟨numbered_fresh definitions pace, driving_fresh definitions pace⟩

/-- No turn within the rule leaves it. -/
theorem Attended.take (ha : engine.Attended)
    (hrule : Unattended engine turn) : (engine.take turn).Attended :=
  ⟨ha.numbered.take turn,
    (ha.numbered.effect turn).driving ha.numbered ha.driving hrule⟩

/-- No play within the rule leaves it. -/
theorem Attended.play (ha : engine.Attended) {turns : List Turn}
    (hf : Follows Unattended engine turns) :
    (engine.play turns).Attended :=
  play_keeps (fun _ _ ha hrule => ha.take hrule) ha hf

end BatchAdmin.Engine
