/-
A stop is not lost to a runner.

`stop_prevails` takes any play of an engine with runners in which clients
launch, stop and restart and runners move, one move to a turn, in
whatever order. Statuses move only from started to stopping or completed,
and from stopping to stopped (`Advances`). An execution that some stop
found running is stopping, or has ended as stopped; one that no stop
found running is started, or has completed. And from a stop that found an
execution running, its runner records one more chunk at most and starts
one more step at most.

Whether a stop was accepted is a matter of the play and not of the
record: `Spares` is the rule that no stop of an execution finds it
running, and a play breaks it at a stop that was accepted.
-/
import BatchAdmin.Proofs.Engine.Winding

namespace BatchAdmin.Engine

variable {engine next : Engine} {turn : Turn}

-- ============================================================== one turn

/-- The ways of a status. -/
def Advances : Status → Status → Prop
  | .started, .stopping | .started, .completed | .stopping, .stopped => True
  | _, _ => False

/-- A course leaves the status or advances it. -/
theorem Course.advances {act : Act} {e x : Execution}
    (hc : Course act e x) :
    x.status = e.status ∨ Advances e.status x.status := by
  cases hc with
  | same hs _ => exact .inl hs
  | asked _ _ hs hx =>
      rcases hs with hs | hs
      · right
        rw [hs, hx]
        trivial
      · exact .inl (hx.trans hs.symm)
  | completed hs hx _ =>
      right
      rw [hs, hx]
      trivial
  | stopped hs hx _ =>
      right
      rw [hs, hx]
      trivial

/-- After a turn an execution is one from before with its status left or
advanced, or a new one, which is started. -/
theorem Effect.advances (heff : Effect engine turn next)
    (ha : engine.Attended) (hst : engine.Steered)
    (hrule : SelfDriven engine turn) {y : Execution}
    (hy : y ∈ next.executions) :
    (∃ x ∈ engine.executions, x.id = y.id
        ∧ (y.status = x.status ∨ Advances x.status y.status))
      ∨ (y.status = .started ∧ ∀ x ∈ engine.executions, x.id ≠ y.id) := by
  cases heff.origin hy with
  | kept hy => exact .inl ⟨y, hy, rfl, .inl rfl⟩
  | @changed e change he hm hye =>
      subst hye
      exact .inl ⟨e, he, (Change.on_id ..).symm,
        (hm.course he ha hst hrule).advances⟩
  | begun _ hye =>
      subst hye
      refine .inr ⟨rfl, fun x hx hid => ?_⟩
      have hle := ha.numbered.executions_le x hx
      have hid : x.id = engine.lastExecution + 1 := hid
      omega

/-- No stop of the execution finds it running. -/
def Spares (id : Int) : Rule := fun engine turn =>
  match turn.act with
  | .stop other => other = id → engine.runs id = false
  | _ => True

instance (id : Int) (engine : Engine) :
    ∀ turn, Decidable (Spares id engine turn)
  | ⟨.stop other, _⟩ =>
      inferInstanceAs (Decidable (other = id → engine.runs id = false))
  | ⟨.launch _ _, _⟩ | ⟨.restart _, _⟩ | ⟨.startStep _ _, _⟩
  | ⟨.recordChunk _ _ _, _⟩ | ⟨.finishStep _ _ _, _⟩
  | ⟨.finish _ _ _, _⟩ | ⟨.run _, _⟩ =>
      inferInstanceAs (Decidable True)

/-- What breaks the rule is a stop that finds the execution running. -/
theorem not_spares {id : Int} :
    ¬Spares id engine turn
      ↔ turn.act = .stop id ∧ engine.runs id = true := by
  obtain ⟨act, now⟩ := turn
  cases act with
  | stop other =>
      unfold Spares
      dsimp only
      rw [Act.stop.injEq, Classical.not_imp, Bool.not_eq_false]
  | _ => simp [Spares]

/-- An execution that is spared by a turn stays spared. -/
theorem Effect.spared (heff : Effect engine turn next)
    (ha : engine.Attended) (hst : engine.Steered)
    (hrule : SelfDriven engine turn) {id : Int}
    (hspares : Spares id engine turn)
    (hall : ∀ x ∈ engine.executions, x.id = id → Spared x) :
    ∀ y ∈ next.executions, y.id = id → Spared y := by
  intro y hy hid
  cases heff.origin hy with
  | kept hy => exact hall y hy hid
  | @changed e change he hm hye =>
      subst hye
      rw [Change.on_id] at hid
      refine (hm.course he ha hst hrule).spared (hall e he hid) ?_
      intro hact
      rw [hid] at hact
      cases hrun : e.isRunning with
      | false => rfl
      | true =>
          have hruns : engine.runs id = true :=
            runs_eq_true.2 ⟨e, hid ▸ ha.numbered.find he, hrun⟩
          exact absurd hspares (not_spares.2 ⟨hact, hruns⟩)
  | begun _ hye =>
      subst hye
      exact .inl rfl

-- ================================================================= the plays

/-- Counts that an execution was held to are kept all along. -/
theorem Winding.play {turns : List Turn} {id : Int} {chunks steps : Nat}
    (hw : engine.Winding id chunks steps) (hm : engine.Manned)
    (hf : Follows SelfDriven engine turns) :
    (engine.play turns).Winding id chunks steps := by
  refine (play_keeps
    (P := fun engine => engine.Manned ∧ engine.Winding id chunks steps)
    (fun engine turn h hrule => ⟨h.1.take hrule, ?_⟩) ⟨hm, hw⟩ hf).2
  exact (h.1.attended.numbered.effect turn).winding h.1.attended
    h.1.steered hrule h.2

/-- An execution that is spared all along has not been asked to stop. -/
theorem Manned.spared {turns : List Turn} {id : Int} (hm : engine.Manned)
    (hf : Follows SelfDriven engine turns)
    (hs : Follows (Spares id) engine turns)
    (hall : ∀ x ∈ engine.executions, x.id = id → Spared x) :
    ∀ x ∈ (engine.play turns).executions, x.id = id → Spared x := by
  refine (play_keeps
    (P := fun engine => engine.Manned
      ∧ ∀ x ∈ engine.executions, x.id = id → Spared x)
    (fun engine turn h hrule => ⟨h.1.take hrule.1, ?_⟩) ⟨hm, hall⟩
    (hf.and hs)).2
  exact (h.1.attended.numbered.effect turn).spared h.1.attended
    h.1.steered hrule.1 hrule.2 h.2

/-- An engine with runners after a play. -/
abbrev simulated (definitions : List JobDefinition) (pace : Nat)
    (turns : List Turn) : Engine :=
  (fresh definitions (some pace)).play turns

section Simulated

variable {definitions : List JobDefinition} {pace : Nat}
  {turns : List Turn}

/-- An engine with runners is manned at every cut of a play. -/
private theorem manned_simulated
    (hf : Follows SelfDriven (fresh definitions (some pace)) turns) :
    (simulated definitions pace turns).Manned :=
  Manned.play ⟨attended_fresh definitions (some pace),
    steered_fresh definitions pace⟩ hf

/-- What a stop that finds an execution running leaves to be done. -/
private theorem winding_simulated
    (hf : Follows SelfDriven (fresh definitions (some pace)) turns)
    {before after : List Turn} {id : Int} {now : Instant} {w : Execution}
    (hcut : turns = before ++ ⟨.stop id, now⟩ :: after)
    (hw : (simulated definitions pace before).execution? id = some w)
    (hrun : w.isRunning = true) :
    (simulated definitions pace turns).Winding id (w.chunks + 1)
      (w.steps.length + 1) := by
  subst hcut
  obtain ⟨hbefore, hrule, hafter⟩ := follows_append.1 hf
  have hm := manned_simulated hbefore
  have hstop := winding_of_stop now hm.steered hw hrun
  unfold simulated
  rw [play_append, play_cons]
  exact hstop.play (hm.take hrule) hafter

/-- Where executions are left to their runners, statuses only advance; an
execution yields exactly if some stop found it running; and from such a
stop on its runner records one more chunk and starts one more step at
most. -/
theorem stop_prevails
    (hf : Follows SelfDriven (fresh definitions (some pace)) turns) :
    (∀ before turn after, turns = before ++ turn :: after →
        ∀ y ∈ (simulated definitions pace (before ++ [turn])).executions,
          (∃ x ∈ (simulated definitions pace before).executions,
              x.id = y.id
                ∧ (y.status = x.status ∨ Advances x.status y.status))
            ∨ (y.status = .started
              ∧ ∀ x ∈ (simulated definitions pace before).executions,
                  x.id ≠ y.id))
      ∧ (∀ x ∈ (simulated definitions pace turns).executions,
          (Follows (Spares x.id) (fresh definitions (some pace)) turns →
              Spared x)
            ∧ (¬Follows (Spares x.id) (fresh definitions (some pace))
                turns → Yielding x))
      ∧ (∀ before id now after, turns = before ++ ⟨.stop id, now⟩ :: after →
          ∀ w, (simulated definitions pace before).execution? id = some w →
            w.isRunning = true →
            ∃ x, (simulated definitions pace turns).execution? id = some x
              ∧ x.chunks ≤ w.chunks + 1
              ∧ x.steps.length ≤ w.steps.length + 1) := by
  refine ⟨?_, ?_, ?_⟩
  · rintro before turn after rfl y hy
    obtain ⟨hbefore, hrule, -⟩ := follows_append.1 hf
    have hm := manned_simulated hbefore
    unfold simulated at hy
    rw [play_append] at hy
    exact (hm.attended.numbered.effect turn).advances hm.attended
      hm.steered hrule hy
  · intro x hx
    constructor
    · intro hspares
      exact Manned.spared
        ⟨attended_fresh definitions (some pace),
          steered_fresh definitions pace⟩
        hf hspares (fun _ h => nomatch h) x hx rfl
    · intro hnot
      rw [follows_iff] at hnot
      simp only [Classical.not_forall] at hnot
      obtain ⟨before, turn, after, hcut, hstop⟩ := hnot
      obtain ⟨hact, hruns⟩ := not_spares.1 hstop
      obtain ⟨w, hw, hrun⟩ := runs_eq_true.1 hruns
      obtain ⟨act, now⟩ := turn
      subst hact
      obtain ⟨y, hy, hid, hyield, -⟩ := winding_simulated hf hcut hw hrun
      have hn := (manned_simulated hf).attended.numbered
      rw [hn.eq_of_id_eq hx hy hid.symm]
      exact hyield
  · intro before id now after hcut w hw hrun
    obtain ⟨x, hx, hid, -, hchunks, hsteps, -⟩ :=
      winding_simulated hf hcut hw hrun
    subst hid
    exact ⟨x, (manned_simulated hf).attended.numbered.find hx, hchunks,
      hsteps⟩

end Simulated

/-- A job of one step. -/
def reading : List JobDefinition := [{ name := "load", steps := ["read"] }]

/-- It is launched, and its runner comes to the first chunk. -/
def toFirstChunk : List Turn :=
  [⟨.launch "load" .empty, 0, 0⟩, ⟨.run 1, 0, 0⟩, ⟨.run 1, 1, 0⟩]

/-- There it is stopped, and the runner goes on for as long as it can. -/
def stoppedAtChunk : List Turn :=
  toFirstChunk ++ ⟨.stop 1, 1, 0⟩
    :: [⟨.run 1, 1, 0⟩, ⟨.run 1, 2, 0⟩, ⟨.run 1, 2, 0⟩]

/-- The runner records the chunk that it was about to record, and none
after it. -/
theorem stoppedAtChunk_prevails :
    Follows SelfDriven (fresh reading (some 1000)) stoppedAtChunk
      ∧ (simulated reading 1000 stoppedAtChunk).executions.map
            (fun x => (x.status, x.exit, x.chunks))
          = [(.stopped, some .stopped, 1)]
      ∧ ∃ w x, (simulated reading 1000 toFirstChunk).execution? 1 = some w
          ∧ (simulated reading 1000 stoppedAtChunk).execution? 1 = some x
          ∧ x.chunks ≤ w.chunks + 1
          ∧ x.steps.length ≤ w.steps.length + 1 := by
  have hf : Follows SelfDriven (fresh reading (some 1000))
      stoppedAtChunk := by decide
  refine ⟨hf, by decide, ?_⟩
  have hruns : (simulated reading 1000 toFirstChunk).runs 1 = true := by
    decide
  obtain ⟨w, hw, hrun⟩ := runs_eq_true.1 hruns
  obtain ⟨x, hx, hle⟩ := (stop_prevails hf).2.2 toFirstChunk 1 ⟨1, 0⟩ _
    rfl w hw hrun
  exact ⟨w, x, hw, hx, hle⟩

end BatchAdmin.Engine
