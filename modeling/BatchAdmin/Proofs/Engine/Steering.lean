/-
Executions that are left to their runners.

Where nobody works through executions but their own runners, and clients
only launch, stop and restart (`SelfDriven`), every execution is on one
of two ways (`Steered`): it is spared, started and in the end completed,
or it yields to a stop, stopping and in the end stopped. A turn does one
of four things to it (`Course`): it leaves its status alone, asks it to
stop, completes it while it is started, or stops it while it is
stopping.

A runner looks for a stop and acts on what it saw in two moves, and a
stop may come between any two of them. What makes this harmless is that
the end of a run looks again in the very move that closes the execution,
and that a runner that has seen a stop (phase `stopping`) has an
execution that is stopping and that nobody else can bring back.
-/
import BatchAdmin.Proofs.Engine.Attendance

namespace BatchAdmin.Engine

variable {engine next : Engine} {turn : Turn}

-- ================================================================= the rule

/-- Executions are left to their runners: clients only launch, stop and
restart. -/
def SelfDriven : Rule := fun _ turn =>
  match turn.act with
  | .launch _ _ | .stop _ | .restart _ | .run _ => True
  | _ => False

instance (engine : Engine) : ∀ turn, Decidable (SelfDriven engine turn)
  | ⟨.launch _ _, _⟩ | ⟨.stop _, _⟩ | ⟨.restart _, _⟩ | ⟨.run _, _⟩ =>
      inferInstanceAs (Decidable True)
  | ⟨.startStep _ _, _⟩ | ⟨.recordChunk _ _ _, _⟩
  | ⟨.finishStep _ _ _, _⟩ | ⟨.finish _ _ _, _⟩ =>
      inferInstanceAs (Decidable False)

/-- Nobody then ends an execution from outside. -/
theorem SelfDriven.unattended (h : SelfDriven engine turn) :
    Unattended engine turn := by
  obtain ⟨act, now⟩ := turn
  cases act with
  | finish id status exit => exact h.elim
  | _ => trivial

-- ================================================================= two ways

/-- The execution was not asked to stop. -/
def Spared (e : Execution) : Prop :=
  e.status = .started ∨ e.status = .completed ∧ e.exit = some .completed

/-- The execution was asked to stop. -/
def Yielding (e : Execution) : Prop :=
  e.status = .stopping ∨ e.status = .stopped ∧ e.exit = some .stopped

/-- Every execution is on one of the two ways, and a runner that is about
to stop its execution was asked to. -/
structure Steered (engine : Engine) : Prop where
  paced : engine.pace.isSome = true
  way : ∀ e ∈ engine.executions, Spared e ∨ Yielding e
  attached : ∀ e ∈ engine.executions, e.isRunning = true →
    e.id ∈ engine.attached
  halting : ∀ r ∈ engine.runners, r.phase = .stopping →
    ∀ e ∈ engine.executions, e.id = r.execution → e.status = .stopping

/-- An engine with runners that has run nothing has strayed nowhere. -/
theorem steered_fresh (definitions : List JobDefinition) (pace : Nat) :
    (fresh definitions (some pace)).Steered where
  paced := rfl
  way := fun _ h => nomatch h
  attached := fun _ h => nomatch h
  halting := fun _ h => nomatch h

/-- A running execution on its way is started or stopping. -/
theorem started_or_stopping {e : Execution} (hw : Spared e ∨ Yielding e)
    (hrun : e.isRunning = true) :
    e.status = .started ∨ e.status = .stopping := by
  unfold Execution.isRunning at hrun
  rcases hw with (hs | ⟨hs, -⟩) | (hs | ⟨hs, -⟩)
  · exact .inl hs
  · rw [hs] at hrun
    cases hrun
  · exact .inr hs
  · rw [hs] at hrun
    cases hrun

/-- All that clients do to an execution is to ask for a stop, and then it
runs and is left to its runner. -/
theorem Calls.asked {e : Execution} {change : Change}
    (hc : Calls engine e turn.act change) (he : e ∈ engine.executions)
    (hst : engine.Steered) (hrule : SelfDriven engine turn) :
    turn.act = .stop e.id ∧ change = .mark ∧ e.isRunning = true := by
  obtain ⟨act, now⟩ := turn
  cases hc with
  | stopDriven hrun _ => exact ⟨rfl, rfl, hrun⟩
  | stopFree hrun hfree => exact absurd (hst.attached e he hrun) hfree
  | startStep _ => exact hrule.elim
  | recordChunk _ _ => exact hrule.elim
  | finishStep _ _ => exact hrule.elim
  | finish _ _ => exact hrule.elim

-- =============================================================== the course

/-- What a turn does to an execution's status and to how it ended. -/
inductive Course (act : Act) (e x : Execution) : Prop
  | same (hs : x.status = e.status) (hexit : x.exit = e.exit)
  | asked (ha : act = .stop e.id) (hrun : e.isRunning = true)
      (hs : e.status = .started ∨ e.status = .stopping)
      (hx : x.status = .stopping)
  | completed (hs : e.status = .started) (hx : x.status = .completed)
      (hexit : x.exit = some .completed)
  | stopped (hs : e.status = .stopping) (hx : x.status = .stopped)
      (hexit : x.exit = some .stopped)

/-- Whoever changes an execution keeps to the course. -/
theorem Makes.course {e : Execution} {change : Change}
    (hm : Makes engine turn e change) (he : e ∈ engine.executions)
    (ha : engine.Attended) (hst : engine.Steered)
    (hrule : SelfDriven engine turn) :
    Course turn.act e (change.on e turn.now) := by
  cases hm with
  | call hc =>
      obtain ⟨hact, rfl, hrun⟩ := hc.asked he hst hrule
      exact .asked hact hrun (started_or_stopping (hst.way e he) hrun) rfl
  | @move r change left hact hr hm =>
      obtain ⟨hmem, hrid⟩ := mem_of_runner? hr
      have hrun := ha.driving.runs ha.numbered he hr
      cases hm with
      | endStopped _ _ hs => exact .stopped hs rfl rfl
      | endCompleted _ _ hs =>
          rcases started_or_stopping (hst.way e he) hrun with hs' | hs'
          · exact .completed hs' rfl rfl
          · exact absurd hs' hs
      | openStep _ _ => exact .same rfl rfl
      | chunk _ _ _ => exact .same rfl rfl
      | lastChunk _ _ _ => exact .same rfl rfl
      | closeStep _ _ => exact .same rfl rfl
      | halt hp =>
          exact .stopped (hst.halting r hmem hp e he hrid.symm) rfl rfl

/-- An execution that yields goes on yielding. -/
theorem Course.yielding {act : Act} {e x : Execution}
    (hc : Course act e x) (hy : Yielding e) : Yielding x := by
  cases hc with
  | same hs hexit =>
      unfold Yielding
      rw [hs, hexit]
      exact hy
  | asked _ _ _ hx => exact .inl hx
  | completed hs _ _ =>
      unfold Yielding at hy
      rw [hs] at hy
      rcases hy with hy | ⟨hy, -⟩ <;> cases hy
  | stopped _ hx hexit => exact .inr ⟨hx, hexit⟩

/-- An execution that is spared stays so, unless a stop finds it
running. -/
theorem Course.spared {act : Act} {e x : Execution}
    (hc : Course act e x) (hs : Spared e)
    (hno : act = .stop e.id → e.isRunning = false) : Spared x := by
  cases hc with
  | same hst hexit =>
      unfold Spared
      rw [hst, hexit]
      exact hs
  | asked ha hrun _ _ =>
      rw [hno ha] at hrun
      cases hrun
  | completed _ hx hexit => exact .inr ⟨hx, hexit⟩
  | stopped hst _ _ =>
      unfold Spared at hs
      rw [hst] at hs
      rcases hs with hs | ⟨hs, -⟩ <;> cases hs

/-- An execution on one of the two ways stays on one of them. -/
theorem Course.way {act : Act} {e x : Execution} (hc : Course act e x)
    (hw : Spared e ∨ Yielding e) : Spared x ∨ Yielding x := by
  cases hc with
  | same hs hexit =>
      unfold Spared Yielding
      rw [hs, hexit]
      exact hw
  | asked _ _ _ hx => exact .inr (.inl hx)
  | completed _ hx hexit => exact .inl (.inr ⟨hx, hexit⟩)
  | stopped _ hx hexit => exact .inr (.inr ⟨hx, hexit⟩)

/-- An execution that yields and still runs is stopping. -/
theorem Yielding.stopping {e : Execution} (hy : Yielding e)
    (hrun : e.isRunning = true) : e.status = .stopping := by
  rcases hy with hs | ⟨hs, -⟩
  · exact hs
  · unfold Execution.isRunning at hrun
    rw [hs] at hrun
    cases hrun

-- ============================================================== the turns

/-- A runner answers on for an execution that is changed and runs on. -/
theorem Makes.attached {e : Execution} {change : Change}
    (hm : Makes engine turn e change) (hrule : SelfDriven engine turn)
    (hatt : e.isRunning = true → e.id ∈ engine.attached)
    (hrun : (change.on e turn.now).isRunning = true) :
    e.id ∈ change.attached e.id engine.attached := by
  obtain ⟨act, now⟩ := turn
  cases hm with
  | call hc =>
      cases hc with
      | stopDriven hrun' _ => exact hatt hrun'
      | stopFree _ _ => cases hrun
      | startStep _ => exact hrule.elim
      | recordChunk _ _ => exact hrule.elim
      | finishStep _ _ => exact hrule.elim
      | finish _ _ => exact hrule.elim
  | move _ _ hm =>
      cases hm with
      | endStopped _ _ _ => cases hrun
      | endCompleted _ _ _ => cases hrun
      | openStep _ _ => exact hatt hrun
      | chunk _ _ _ => exact hatt hrun
      | lastChunk _ _ _ => exact hatt hrun
      | closeStep _ _ => exact hatt hrun
      | halt _ => cases hrun

/-- A change to one execution leaves the others answered for. -/
private theorem attached_revise {x e : Execution} {change : Change}
    {now : Instant} (hne : x.id ≠ e.id) (hatt : x.id ∈ engine.attached) :
    x.id ∈ (engine.revise e change now).attached := by
  show x.id ∈ change.attached e.id engine.attached
  cases change with
  | close status exit =>
      exact List.mem_filter.2 ⟨hatt, by simpa using hne⟩
  | _ => exact hatt

/-- Whatever runs after a turn is answered for. -/
private theorem Effect.attached (heff : Effect engine turn next)
    (hst : engine.Steered) (hrule : SelfDriven engine turn)
    {x : Execution} (hx : x ∈ next.executions)
    (hrun : x.isRunning = true) : x.id ∈ next.attached := by
  -- a change made, whoever makes it
  have hrevise : ∀ {e : Execution} {change : Change},
      engine.execution? e.id = some e → Makes engine turn e change →
      x ∈ (engine.revise e change turn.now).executions →
      x.id ∈ (engine.revise e change turn.now).attached := by
    intro e change he hm hx
    rcases (mem_revise he).1 hx with ⟨hx, hne⟩ | rfl
    · exact attached_revise hne (hst.attached x hx hrun)
    · rw [Change.on_id]
      exact hm.attached hrule
        (hst.attached e (mem_of_execution? he).1) hrun
  cases heff with
  | quiet => exact hst.attached x hx hrun
  | wasted => exact hst.attached x hx hrun
  | called he hc => exact hrevise he (.call hc) hx
  | @moved e r change left ha he hr hm =>
      cases change with
      | none => exact hst.attached x hx hrun
      | some change => exact hrevise he (.move ha hr hm) hx
  | @begun engine₀ job i parameters steps ho =>
      obtain ⟨hex, -, hpace, hatt, -, -⟩ := ho.same
      have hpaced : engine₀.pace.isSome = true := by
        rw [hpace]
        exact hst.paced
      rw [begin_eq]
      show x.id ∈ engine₀.attached ++ (if _ then _ else _)
      rw [if_pos hpaced, hatt]
      rcases mem_begin.1 hx with hx | rfl
      · exact List.mem_append_left _ (hst.attached x (hex ▸ hx) hrun)
      · exact List.mem_append_right _ (List.mem_singleton_self _)

/-- A runner from before the turn that is about to stop its execution was
asked to. -/
private theorem Effect.halting_old (heff : Effect engine turn next)
    (ha : engine.Attended) (hst : engine.Steered)
    (hrule : SelfDriven engine turn) {r : Runner}
    (hr : r ∈ engine.runners) (hp : r.phase = .stopping) {x : Execution}
    (hx : x ∈ next.executions) (hid : x.id = r.execution)
    (hrun : x.isRunning = true) : x.status = .stopping := by
  cases heff.origin hx with
  | kept hx => exact hst.halting r hr hp x hx hid
  | @changed e change he hm hxe =>
      subst hxe
      rw [Change.on_id] at hid
      have hstopping := hst.halting r hr hp e he hid
      exact ((hm.course he ha hst hrule).yielding (.inl hstopping)).stopping
        hrun
  | begun _ hxe =>
      -- a runner from before drives an execution from before
      obtain ⟨e, he, -⟩ := ha.numbered.known r hr
      obtain ⟨hmem, hide⟩ := mem_of_execution? he
      have hle := ha.numbered.executions_le e hmem
      subst hxe
      have hid : engine.lastExecution + 1 = r.execution := hid
      omega

/-- No effect leads off the two ways. -/
theorem Effect.steered (heff : Effect engine turn next)
    (ha : engine.Attended) (hst : engine.Steered)
    (hrule : SelfDriven engine turn) : next.Steered where
  paced := by
    rw [heff.setup.2]
    exact hst.paced
  way := by
    intro x hx
    cases heff.origin hx with
    | kept hx => exact hst.way x hx
    | @changed e change he hm hxe =>
        subst hxe
        exact (hm.course he ha hst hrule).way (hst.way e he)
    | begun _ hxe =>
        subst hxe
        exact .inl (.inl rfl)
  attached := fun x hx hrun => heff.attached hst hrule hx hrun
  halting := by
    intro r hr hp x hx hid
    have hn' := heff.numbered ha.numbered
    have hrun : x.isRunning = true := by
      obtain ⟨-, y, hy, hyid, hrun⟩ :=
        heff.driving ha.numbered ha.driving hrule.unattended r hr
      rw [hn'.eq_of_id_eq hx hy (hid.trans hyid.symm)]
      exact hrun
    have hold : r ∈ engine.runners → x.status = .stopping := fun hr =>
      heff.halting_old ha hst hrule hr hp hx hid hrun
    cases heff with
    | quiet => exact hold hr
    | wasted => exact hold hr
    | called _ _ => exact hold hr
    | @moved e r₀ change left _ he hr₀ hm =>
        rcases mem_keepRunner.1 hr with ⟨hr, -⟩ | ⟨rfl, -⟩
        · rw [runners_reviseBy] at hr
          exact hold hr
        · have hrid := hm.execution.trans (mem_of_runner? hr₀).2
          cases hm with
          | seeStop _ hs =>
              have hxe := ha.numbered.eq_of_id_eq hx
                (mem_of_execution? he).1 (hid.trans hrid)
              rw [hxe]
              exact hs
          | _ => cases hp
    | @begun engine₀ job i parameters steps ho =>
        rcases mem_runners_begin.1 hr with hr | ⟨-, rfl⟩
        · exact hold (ho.same.2.2.2.2.1 ▸ hr)
        · cases hp

-- ================================================================= the plays

/-- What a play of an engine with runners starts from and never leaves
when executions are left to their runners. -/
structure Manned (engine : Engine) : Prop where
  attended : engine.Attended
  steered : engine.Steered

/-- No turn within the rule leaves it. -/
theorem Manned.take (hm : engine.Manned)
    (hrule : SelfDriven engine turn) : (engine.take turn).Manned :=
  ⟨hm.attended.take hrule.unattended,
    (hm.attended.numbered.effect turn).steered hm.attended hm.steered
      hrule⟩

/-- No play within the rule leaves it. -/
theorem Manned.play (hm : engine.Manned) {turns : List Turn}
    (hf : Follows SelfDriven engine turns) : (engine.play turns).Manned :=
  play_keeps (fun _ _ hm hrule => hm.take hrule) hm hf

end BatchAdmin.Engine
