/-
The life of executions and steps, as their records tell it.

A record tells in several fields at once where it stands in its life: by its
status, by whether there is an end time, an execution also by whether there
is an exit status; and its times follow each other. `Coherent` says that the
fields agree. The engine's calls write them in different combinations and
none looks at the others first, not even at whether the record has ended
already: a step may be started in an execution that has ended, a chunk
recorded in a step that has, and either be ended once more. What keeps the
fields together is that every call that brings an ended status also brings
an end time, and that a time that is written is the present one.

`lifeCycle_play` has two promises: that what is ended is given a status that
has ended (`Definite`), and that the clock does not go back. It also says
what the turns that end an execution (`EndsRun`) do to its steps.
-/
import BatchAdmin.Proofs.Engine.Finality

namespace BatchAdmin

-- ================================================================== one life

/-- A record runs or has ended, and this is when it was started, ended and
written to; now is not before that. -/
structure Lived (now : Instant) (running : Bool)
    (start stop last : Option Instant) : Prop where
  /-- There is no end while it runs, and one when it does not. -/
  running_iff : running = true ↔ stop = none
  /-- It was not ended before it was started, nor written to before it was
  ended. -/
  ordered : ∃ a c, start = some a ∧ last = some c ∧ a ≤ c ∧ c ≤ now
    ∧ ∀ b, stop = some b → a ≤ b ∧ b ≤ c

namespace Lived

variable {now moment : Instant} {running : Bool}
  {start stop last : Option Instant}

/-- A life that begins now. -/
theorem begun : Lived now true (some now) none (some now) :=
  ⟨by simp, now, now, rfl, rfl, by simp, by simp, nofun⟩

/-- Time passes. -/
theorem later (h : Lived now running start stop last) (hle : now ≤ moment) :
    Lived moment running start stop last := by
  obtain ⟨a, c, ha, hc, hac, hcn, hstop⟩ := h.ordered
  exact ⟨h.running_iff, a, c, ha, hc, hac, Instant.le_trans hcn hle, hstop⟩

/-- The record is written to. -/
theorem touched (h : Lived now running start stop last)
    (hle : now ≤ moment) : Lived moment running start stop (some moment) := by
  obtain ⟨a, c, ha, hc, hac, hcn, hstop⟩ := h.ordered
  have hcl : c ≤ moment := Instant.le_trans hcn hle
  refine ⟨h.running_iff, a, moment, ha, rfl, Instant.le_trans hac hcl,
    Instant.le_refl _, ?_⟩
  intro b hb
  obtain ⟨hab, hbc⟩ := hstop b hb
  exact ⟨hab, Instant.le_trans hbc hcl⟩

/-- The life ends, or ends once more. -/
theorem ended (h : Lived now running start stop last) (hle : now ≤ moment) :
    Lived moment false start (some moment) (some moment) := by
  obtain ⟨a, c, ha, hc, hac, hcn, -⟩ := h.ordered
  have hal : a ≤ moment :=
    Instant.le_trans hac (Instant.le_trans hcn hle)
  refine ⟨by simp, a, moment, ha, rfl, hal, Instant.le_refl _, ?_⟩
  intro b hb
  obtain rfl := Option.some.inj hb
  exact ⟨hal, Instant.le_refl _⟩

end Lived

/-- The fields of a step agree. -/
def StepExecution.Coherent (now : Instant) (s : StepExecution) : Prop :=
  Lived now s.status.isRunning s.startTime s.endTime s.lastUpdated

/-- The fields of an execution agree, and those of its steps. -/
structure Execution.Coherent (now : Instant) (e : Execution) : Prop where
  times : Lived now e.isRunning e.startTime e.endTime e.lastUpdated
  /-- There is no exit status while it runs, and one when it does not. -/
  exit : e.isRunning = true ↔ e.exit = none
  steps : ∀ s ∈ e.steps, s.Coherent now

/-- Time passes. -/
theorem Execution.Coherent.later {now moment : Instant} {e : Execution}
    (h : e.Coherent now) (hle : now ≤ moment) : e.Coherent moment :=
  ⟨h.times.later hle, h.exit, fun s hs => (h.steps s hs).later hle⟩

namespace Engine

variable {engine next : Engine} {turn : Turn} {e : Execution}
  {now moment : Instant}

-- ================================================================= the rule

/-- Steps and executions are only ended with a status that has ended. -/
def Definite : Rule := fun _ turn =>
  match turn.act with
  | .finishStep _ _ status | .finish _ status _ => status.isRunning = false
  | _ => True

instance (engine : Engine) : ∀ turn, Decidable (Definite engine turn)
  | ⟨.finishStep _ _ status, _⟩ | ⟨.finish _ status _, _⟩ =>
      inferInstanceAs (Decidable (status.isRunning = false))
  | ⟨.launch _ _, _⟩ | ⟨.stop _, _⟩ | ⟨.restart _, _⟩
  | ⟨.startStep _ _, _⟩ | ⟨.recordChunk _ _ _, _⟩ | ⟨.run _, _⟩ =>
      inferInstanceAs (Decidable True)

/-- The change marks only what runs, and what it ends has ended. -/
def Change.Definite (e : Execution) : Change → Prop
  | .mark => e.isRunning = true
  | .closeStep _ status | .close status _ => status.isRunning = false
  | .openStep _ _ | .chunk _ _ => True

/-- So it is with every change that is made within the rule. -/
theorem Makes.definite {change : Change} (hm : Makes engine turn e change)
    (hrule : Engine.Definite engine turn) : change.Definite e := by
  obtain ⟨act, now⟩ := turn
  cases hm with
  | call hc =>
      cases hc with
      | stopDriven hrun _ => exact hrun
      | stopFree _ _ => rfl
      | startStep _ => trivial
      | recordChunk _ _ => trivial
      | finishStep _ _ => exact hrule
      | finish _ _ => exact hrule
  | move _ _ hm =>
      cases hm with
      | endStopped _ _ _ => rfl
      | endCompleted _ _ _ => rfl
      | openStep _ _ => trivial
      | chunk _ _ _ => trivial
      | lastChunk _ _ _ => trivial
      | closeStep _ _ => rfl
      | halt _ => rfl

-- ================================================================= a change

/-- A step that has ended has agreeing fields. -/
private theorem coherent_ended {s : StepExecution} {status : Status}
    (hs : s.Coherent now) (hended : status.isRunning = false)
    (hle : now ≤ moment) : (ended s status moment).Coherent moment := by
  show Lived moment status.isRunning s.startTime (some moment) (some moment)
  rw [hended]
  exact hs.ended hle

/-- A change leaves the fields in agreement. -/
theorem Change.Definite.coherent {change : Change}
    (hd : change.Definite e) (hf : change.Fits engine e)
    (hc : e.Coherent now) (hle : now ≤ moment) :
    (change.on e moment).Coherent moment := by
  have hsteps : ∀ s ∈ e.steps, s.Coherent moment :=
    fun s hs => (hc.steps s hs).later hle
  cases change with
  | mark =>
      have hrun : e.isRunning = true := hd
      have htimes := hc.times.touched hle
      have hexit := hc.exit
      rw [hrun] at htimes hexit
      exact ⟨htimes, hexit, hsteps⟩
  | openStep id name =>
      refine ⟨hc.times.touched hle, hc.exit, ?_⟩
      intro s hs
      rcases List.mem_append.1 hs with hs | hs
      · exact hsteps s hs
      · rw [List.mem_singleton.1 hs]
        exact Lived.begun
  | chunk step items =>
      exact ⟨hc.times.touched hle, hc.exit,
        forall_putStep hsteps ((hc.steps step hf).touched hle)⟩
  | closeStep step status =>
      exact ⟨hc.times.later hle, hc.exit,
        forall_putStep hsteps (coherent_ended (hc.steps step hf) hd hle)⟩
  | close status exit =>
      have hended : status.isRunning = false := hd
      refine ⟨?_, ?_, ?_⟩
      · show Lived moment status.isRunning e.startTime (some moment)
          (some moment)
        rw [hended]
        exact hc.times.ended hle
      · show status.isRunning = true ↔ some exit = none
        simp [hended]
      · exact forall_closed (fun s hs _ => hsteps s hs)
          (fun s hs _ => coherent_ended (hc.steps s hs) hended hle)

/-- No effect within the rule takes the fields of a record apart. -/
theorem Effect.coherent (heff : Effect engine turn next)
    (hrule : Engine.Definite engine turn)
    (hc : ∀ e ∈ engine.executions, e.Coherent now)
    (hle : now ≤ turn.now) :
    ∀ e ∈ next.executions, e.Coherent turn.now := by
  intro x hx
  cases heff.origin hx with
  | kept hx => exact (hc x hx).later hle
  | @changed e change he hm hxe =>
      rw [hxe]
      exact (hm.definite hrule).coherent hm.fits (hc e he) hle
  | begun _ hxe =>
      rw [hxe]
      exact ⟨Lived.begun, by simp [newRecord, Execution.isRunning,
        Status.isRunning], fun _ h => nomatch h⟩

-- ================================================================== the end

/-- The turn ends the execution with this id: an end from outside, a stop
while it runs and no runner answers for it, or the last move of its
runner. -/
def EndsRun (engine : Engine) (turn : Turn) (id : Int) : Prop :=
  match turn.act with
  | .finish other _ _ => other = id
  | .stop other =>
      other = id ∧ engine.runs id = true ∧ id ∉ engine.attached
  | .run other =>
      other = id ∧ ∃ r, engine.runner? id = some r
        ∧ (r.phase = .stopping ∨ r.phase = .starting ∧ r.todo = [])
  | _ => False

/-- What it is for a run to be ended. -/
structure Ending (x y : Execution) : Prop where
  /-- The execution has ended. -/
  ended : y.isRunning = false
  /-- None of its steps runs. -/
  still : ∀ s ∈ y.steps, s.status.isRunning = false
  /-- The steps that had ended are as they were. -/
  kept : ∀ s ∈ x.steps, s.status.isRunning = false → s ∈ y.steps

/-- A record that is closed is that of a run that is ended. -/
private theorem ending_closed {x : Execution} {status : Status}
    {exit : ExitStatus} (hs : status.isRunning = false) :
    Ending x (closed x status exit now) := by
  refine ⟨hs, steps_closed hs, ?_⟩
  intro s hmem hended
  apply List.mem_map.2
  exact ⟨s, hmem, by rw [hended]; rfl⟩

/-- A runner's last move closes the execution. -/
private theorem Moves.closes {r : Runner} {change : Option Change}
    {left : Option Runner} (hm : Moves engine now e r change left)
    (hlast : r.phase = .stopping ∨ r.phase = .starting ∧ r.todo = []) :
    ∃ status exit, change = some (.close status exit) := by
  have hphase : r.phase = .stopping ∨ r.phase = .starting :=
    hlast.imp_right And.left
  cases hm with
  | endStopped _ _ _ => exact ⟨_, _, rfl⟩
  | endCompleted _ _ _ => exact ⟨_, _, rfl⟩
  | openStep hp ht =>
      rw [hp, ht] at hlast
      simp at hlast
  | seeStop hp _ => simp [hp] at hphase
  | seeNone hp _ => simp [hp] at hphase
  | chunk hp _ _ => simp [hp] at hphase
  | lastChunk hp _ _ => simp [hp] at hphase
  | closeStep hp _ => simp [hp] at hphase
  | halt _ => exact ⟨_, _, rfl⟩

/-- A turn that ends an execution closes its record. -/
private theorem closes_of_endsRun {x : Execution} (hn : engine.Numbered)
    (hx : x ∈ engine.executions) (hends : EndsRun engine turn x.id) :
    ∃ status exit, Makes engine turn x (.close status exit)
      ∧ (engine.take turn).execution? x.id
        = some (closed x status exit turn.now) := by
  have hfind := hn.find hx
  obtain ⟨act, now⟩ := turn
  cases act with
  | finish other status exit =>
      obtain rfl : other = x.id := hends
      refine ⟨status, exit, .call (.finish status exit), ?_⟩
      show (engine.finish x.id status exit now).2.execution? x.id = _
      rw [finish_eq hfind]
      exact execution?_revise hfind
  | stop other =>
      obtain ⟨rfl, hruns, hfree⟩ := hends
      obtain ⟨e, he, hrun⟩ := runs_eq_true.1 hruns
      obtain rfl := Option.some.inj (hfind.symm.trans he)
      refine ⟨.stopped, .stopped, .call (.stopFree hrun hfree), ?_⟩
      show (engine.stop x.id now).2.execution? x.id = _
      rw [stop_eq_close hfind hrun hfree]
      exact execution?_revise hfind
  | run other =>
      obtain ⟨rfl, r, hr, hlast⟩ := hends
      obtain ⟨e, change, left, he, hm, heq⟩ :=
        drive_eq now hr (hn.known r (mem_of_runner? hr).1)
      obtain rfl := Option.some.inj (hfind.symm.trans he)
      obtain ⟨status, exit, rfl⟩ := hm.closes hlast
      refine ⟨status, exit, .move rfl hr hm, ?_⟩
      show (engine.drive x.id now).execution? x.id = _
      rw [heq]
      exact execution?_revise hfind
  | launch _ _ => exact hends.elim
  | restart _ => exact hends.elim
  | startStep _ _ => exact hends.elim
  | recordChunk _ _ _ => exact hends.elim
  | finishStep _ _ _ => exact hends.elim

/-- A turn within the rule that ends an execution leaves none of its
steps running and those that had ended as they were. -/
theorem ending_of_endsRun {x : Execution} (hn : engine.Numbered)
    (hrule : Engine.Definite engine turn) (hx : x ∈ engine.executions)
    (hends : EndsRun engine turn x.id) :
    ∃ y, (engine.take turn).execution? x.id = some y ∧ Ending x y := by
  obtain ⟨status, exit, hm, hy⟩ := closes_of_endsRun hn hx hends
  exact ⟨_, hy, ending_closed (hm.definite hrule)⟩

/-- A change after which its execution does not run any more is made by
a turn that ends it. -/
private theorem Makes.endsRun {x : Execution} {change : Change}
    (hm : Makes engine turn x change)
    (hfind : engine.execution? x.id = some x)
    (hrun : x.isRunning = true)
    (hended : (change.on x turn.now).isRunning = false) :
    EndsRun engine turn x.id := by
  have hcontra : (change.on x turn.now).isRunning ≠ x.isRunning := by
    rw [hended, hrun]
    exact Bool.false_ne_true
  obtain ⟨act, now⟩ := turn
  cases hm with
  | call hc =>
      cases hc with
      | stopDriven _ _ => cases hended
      | stopFree _ hfree =>
          exact ⟨rfl, runs_eq_true.2 ⟨x, hfind, hrun⟩, hfree⟩
      | startStep _ => exact absurd rfl hcontra
      | recordChunk _ _ => exact absurd rfl hcontra
      | finishStep _ _ => exact absurd rfl hcontra
      | finish _ _ => exact rfl
  | @move r _ _ ha hr hm =>
      obtain rfl : act = .run x.id := ha
      cases hm with
      | endStopped hp ht _ => exact ⟨rfl, r, hr, .inr ⟨hp, ht⟩⟩
      | endCompleted hp ht _ => exact ⟨rfl, r, hr, .inr ⟨hp, ht⟩⟩
      | openStep _ _ => exact absurd rfl hcontra
      | chunk _ _ _ => exact absurd rfl hcontra
      | lastChunk _ _ _ => exact absurd rfl hcontra
      | closeStep _ _ => exact absurd rfl hcontra
      | halt hp => exact ⟨rfl, r, hr, .inl hp⟩

/-- No other turn ends a run. -/
theorem endsRun_of_ended {x y : Execution} (hn : engine.Numbered)
    (hx : x ∈ engine.executions) (hrun : x.isRunning = true)
    (hy : (engine.take turn).execution? x.id = some y)
    (hended : y.isRunning = false) : EndsRun engine turn x.id := by
  obtain ⟨hmem, hid⟩ := mem_of_execution? hy
  cases (hn.effect turn).origin hmem with
  | kept hmem =>
      obtain rfl := hn.eq_of_id_eq hmem hx hid
      rw [hended] at hrun
      cases hrun
  | @changed e change he hm hye =>
      subst hye
      rw [Change.on_id] at hid
      obtain rfl := hn.eq_of_id_eq he hx hid
      exact hm.endsRun (hn.find hx) hrun hended
  | begun _ hye =>
      subst hye
      cases hended

-- ================================================================= the plays

section Plays

variable {definitions : List JobDefinition} {pace : Option Nat}
  {turns : List Turn}

/-- The fields of every record agree at the end of a play within the rule
that goes on from moment to moment. -/
private theorem coherent_play
    (hf : Follows Engine.Definite (fresh definitions pace) turns)
    (hc : Onward turns now) :
    ∀ e ∈ ((fresh definitions pace).play turns).executions,
      e.Coherent now := by
  refine (play_onward (P := fun now engine => engine.Numbered
    ∧ ∀ e ∈ engine.executions, e.Coherent now) ?_ ?_ ?_ hf hc).2
  · intro now engine turn h hrule hle
    exact ⟨h.1.take turn, (h.1.effect turn).coherent hrule h.2 hle⟩
  · intro now moment engine h hle
    exact ⟨h.1, fun e he => (h.2 e he).later hle⟩
  · intro start
    exact ⟨numbered_fresh definitions pace, fun _ h => nomatch h⟩

/-- As long as what is ended is given a status that has ended and the
clock does not go back, the fields of every record agree; and the turns
that end an execution, which are the only ones after which an execution
that ran runs no more, leave none of its steps running and those that had
ended as they were. -/
theorem lifeCycle_play
    (hf : Follows Engine.Definite (fresh definitions pace) turns)
    (hc : Onward turns now) :
    (∀ e ∈ ((fresh definitions pace).play turns).executions,
        e.Coherent now)
      ∧ ∀ before turn after, turns = before ++ turn :: after →
          ∀ x ∈ ((fresh definitions pace).play before).executions,
            (EndsRun ((fresh definitions pace).play before) turn x.id →
                ∃ y, ((fresh definitions pace).play
                    (before ++ [turn])).execution? x.id = some y
                  ∧ Ending x y)
              ∧ ∀ y, ((fresh definitions pace).play
                    (before ++ [turn])).execution? x.id = some y →
                  x.isRunning = true → y.isRunning = false →
                  EndsRun ((fresh definitions pace).play before) turn
                    x.id := by
  refine ⟨coherent_play hf hc, ?_⟩
  intro before turn after hcut x hx
  subst hcut
  have hrule := (follows_append.1 hf).2.1
  have hn := (numbered_fresh definitions pace).play before
  simp only [play_append, play_cons, play_nil]
  constructor
  · intro hends
    exact ending_of_endsRun hn hrule hx hends
  · intro y hy hrun hended
    exact endsRun_of_ended hn hx hrun hy hended

end Plays

-- ---------------------------------------------------------------- odd orders

/-- A job of no steps, in an engine without runners. -/
def unsupervised : Engine := fresh [{ name := "nightly" }] none

/-- It is launched and given a step, which is ended twice, and a second
one. -/
def endedTwice : List Turn :=
  [⟨.launch "nightly" .empty, 0, 0⟩, ⟨.startStep 1 "read", 1, 0⟩,
    ⟨.recordChunk 1 1 5, 2, 0⟩, ⟨.finishStep 1 1 .completed, 3, 0⟩,
    ⟨.finishStep 1 1 .failed, 3, 0⟩, ⟨.startStep 1 "write", 4, 0⟩]

/-- It is ended while the second step runs, and another one is started
after that. -/
def startedLate : List Turn :=
  endedTwice ++ ⟨.finish 1 .abandoned .stopped, 5, 0⟩
    :: [⟨.startStep 1 "late", 6, 0⟩]

/-- The fields agree all the same; the end of the execution ended its
second step and left the first one failed. -/
theorem startedLate_lifeCycle :
    Follows Engine.Definite unsupervised startedLate
      ∧ Onward startedLate ⟨7, 0⟩
      ∧ (unsupervised.play startedLate).executions.map (fun e =>
            (e.status, e.steps.map fun s => (s.status, s.endTime)))
          = [(.abandoned, [(.failed, some ⟨3, 0⟩),
              (.abandoned, some ⟨5, 0⟩), (.started, none)])]
      ∧ (∀ e ∈ (unsupervised.play startedLate).executions,
          e.Coherent ⟨7, 0⟩)
      ∧ ∃ x y, (unsupervised.play endedTwice).execution? 1 = some x
          ∧ (unsupervised.play (endedTwice
              ++ [⟨.finish 1 .abandoned .stopped, 5, 0⟩])).execution? 1
            = some y
          ∧ Ending x y := by
  have hf : Follows Engine.Definite unsupervised startedLate := by decide
  have hc : Onward startedLate ⟨7, 0⟩ := by decide
  obtain ⟨hall, hcuts⟩ := lifeCycle_play hf hc
  refine ⟨hf, hc, by decide, hall, ?_⟩
  have hruns : (unsupervised.play endedTwice).runs 1 = true := by decide
  obtain ⟨x, hx, -⟩ := runs_eq_true.1 hruns
  obtain ⟨hmem, hid⟩ := mem_of_execution? hx
  obtain ⟨y, hy, hending⟩ :=
    (hcuts endedTwice _ _ rfl x hmem).1 hid.symm
  rw [hid] at hy
  exact ⟨x, y, hx, hy, hending⟩

end Engine

end BatchAdmin
