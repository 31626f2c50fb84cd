/-
What a client learns who asks for an execution but not for its steps.

Such a client looks at the execution's last update and takes the steps to
be as they were if it has not moved. That is right as long as the last
update of an execution is never before that of one of its steps
(`Covered`). Whatever is written to a step is written to its execution at
the same moment, with one exception: the end of a step, which leaves the
execution as it is. So an end is seen only if something else was written
to the execution at that very moment (`Prompt`).

`covered_iff_prompt` says that this is all: as long as the clock does not
go back, the executions cover their steps all along a play exactly if
every step in it is ended promptly, and a step that is not covered has
been ended since its execution was last written to.
-/
import BatchAdmin.Proofs.Engine.Lineage

namespace BatchAdmin

-- ================================================================= coverage

/-- The execution was not written to before the step. -/
def Execution.Covers (e : Execution) (s : StepExecution) : Prop :=
  ∃ b ∈ s.lastUpdated, ∃ c ∈ e.lastUpdated, b ≤ c

instance (e : Execution) (s : StepExecution) : Decidable (e.Covers s) :=
  inferInstanceAs (Decidable (∃ b ∈ s.lastUpdated,
    ∃ c ∈ e.lastUpdated, b ≤ c))

/-- The execution and its steps have been written to, none of them after
this moment. -/
structure Execution.Stamped (now : Instant) (e : Execution) : Prop where
  own : ∃ c, e.lastUpdated = some c ∧ c ≤ now
  steps : ∀ s ∈ e.steps, ∃ b, s.lastUpdated = some b ∧ b ≤ now

/-- Time passes. -/
theorem Execution.Stamped.later {now moment : Instant} {e : Execution}
    (h : e.Stamped now) (hle : now ≤ moment) : e.Stamped moment := by
  obtain ⟨⟨c, hc, hcn⟩, hsteps⟩ := h
  refine ⟨⟨c, hc, Instant.le_trans hcn hle⟩, fun s hs => ?_⟩
  obtain ⟨b, hb, hbn⟩ := hsteps s hs
  exact ⟨b, hb, Instant.le_trans hbn hle⟩

/-- An execution that is written to now covers all its steps. -/
theorem Execution.Stamped.covers {now : Instant} {e : Execution}
    (h : e.Stamped now) (hnow : e.lastUpdated = some now) :
    ∀ s ∈ e.steps, e.Covers s := by
  intro s hs
  obtain ⟨b, hb, hbn⟩ := h.steps s hs
  exact ⟨b, hb, now, hnow, hbn⟩

/-- A runner in this phase is about to end a step. -/
def Phase.closes : Phase → Bool
  | .closing _ => true
  | _ => false

namespace Engine

variable {engine next : Engine} {turn : Turn} {e : Execution}
  {now : Instant} {turns : List Turn}

/-- Every execution covers its steps. -/
def Covered (engine : Engine) : Prop :=
  ∀ e ∈ engine.executions, ∀ s ∈ e.steps, e.Covers s

instance (engine : Engine) : Decidable engine.Covered :=
  inferInstanceAs (Decidable (∀ e ∈ engine.executions,
    ∀ s ∈ e.steps, e.Covers s))

/-- What is not covered has been ended since. -/
def EndsAside (engine : Engine) : Prop :=
  ∀ e ∈ engine.executions, ∀ s ∈ e.steps,
    e.Covers s ∨ s.endTime = s.lastUpdated

-- ================================================================= the rule

/-- The execution of which a turn ends a step: on a call, or as the move
of its runner. -/
def closing? (engine : Engine) (turn : Turn) : Option Execution :=
  match turn.act with
  | .finishStep id step _ =>
      (engine.execution? id).filter fun e => (e.step? step).isSome
  | .run id =>
      if (engine.runner? id).any (·.phase.closes) then
        engine.execution? id
      else none
  | _ => none

/-- Steps are ended only at moments at which their executions have been
written to. -/
def Prompt : Rule := fun engine turn =>
  ∀ e ∈ engine.closing? turn, e.lastUpdated = some turn.now

instance (engine : Engine) (turn : Turn) :
    Decidable (Prompt engine turn) :=
  inferInstanceAs (Decidable (∀ e ∈ engine.closing? turn,
    e.lastUpdated = some turn.now))

/-- A turn that ends a step does so in the execution that is told. -/
theorem Makes.closing? {step : StepExecution} {status : Status}
    (hm : Makes engine turn e (.closeStep step status))
    (he : engine.execution? e.id = some e) :
    engine.closing? turn = some e := by
  obtain ⟨act, now⟩ := turn
  cases hm with
  | call hc =>
      cases hc with
      | finishStep _ hs => simp [Engine.closing?, he, hs]
  | move ha hr hm =>
      obtain rfl : act = .run e.id := ha
      cases hm with
      | closeStep hp _ => simp [Engine.closing?, he, hr, hp, Phase.closes]

/-- A runner that is about to end a step ends one. -/
theorem Moves.ends {r : Runner} {change : Option Change}
    {left : Option Runner} (hm : Moves engine now e r change left)
    (hclose : r.phase.closes = true) :
    ∃ step ∈ e.steps, change = some (.closeStep step .completed) := by
  cases hm with
  | closeStep _ hs => exact ⟨_, (mem_of_step? hs).1, rfl⟩
  | endStopped hp _ _ | endCompleted hp _ _ | openStep hp _
  | seeStop hp _ | seeNone hp _ | chunk hp _ _ | lastChunk hp _ _
  | halt hp =>
      rw [hp] at hclose
      cases hclose

/-- The execution that is told has a step ended by the turn. -/
theorem exists_closed (hn : engine.Numbered)
    (h : engine.closing? turn = some e) :
    ∃ step ∈ e.steps, ∃ status, e ∈ engine.executions
      ∧ (Change.closeStep step status).on e turn.now
        ∈ (engine.take turn).executions := by
  obtain ⟨act, now⟩ := turn
  cases act with
  | finishStep id step status =>
      obtain ⟨he, hstep⟩ := Option.filter_eq_some_iff.1 h
      obtain ⟨s, hs⟩ := Option.isSome_iff_exists.1 hstep
      obtain ⟨hmem, rfl⟩ := mem_of_execution? he
      refine ⟨s, (mem_of_step? hs).1, status, hmem, ?_⟩
      show _ ∈ (engine.finishStep e.id step status now).2.executions
      rw [finishStep_eq he hs]
      exact (mem_revise he).2 (.inr rfl)
  | run id =>
      obtain ⟨hany, he⟩ := Option.ite_none_right_eq_some.1 h
      obtain ⟨r, hr, hclose⟩ := (Option.any_eq_true _ _).1 hany
      obtain ⟨hmem, rfl⟩ := mem_of_execution? he
      obtain ⟨x, change, left, hx, hm, heq⟩ :=
        drive_eq now hr (hn.known r (mem_of_runner? hr).1)
      obtain rfl := Option.some.inj (he.symm.trans hx)
      obtain ⟨step, hstep, rfl⟩ := hm.ends hclose
      refine ⟨step, hstep, .completed, hmem, ?_⟩
      show _ ∈ (engine.drive e.id now).executions
      rw [heq]
      exact (mem_revise he).2 (.inr rfl)
  | _ => cases h

-- ================================================================= a change

/-- Every change but the end of a step is written to the execution. -/
theorem Change.lastUpdated_on (e : Execution) (now : Instant)
    (change : Change) :
    (∃ step status, change = .closeStep step status)
      ∨ (change.on e now).lastUpdated = some now := by
  cases change with
  | closeStep step status => exact .inl ⟨step, status, rfl⟩
  | _ => exact .inr rfl

/-- A change leaves its execution stamped. -/
theorem Change.stamped {change : Change} (h : e.Stamped now) :
    (change.on e now).Stamped now := by
  have hnow : ∃ c, some now = some c ∧ c ≤ now :=
    ⟨now, rfl, Instant.le_refl _⟩
  cases change with
  | mark => exact ⟨hnow, h.steps⟩
  | openStep id name =>
      refine ⟨hnow, fun s hs => ?_⟩
      rcases List.mem_append.1 hs with hs | hs
      · exact h.steps s hs
      · rw [List.mem_singleton.1 hs]
        exact hnow
  | chunk step items => exact ⟨hnow, forall_putStep h.steps hnow⟩
  | closeStep step status => exact ⟨h.own, forall_putStep h.steps hnow⟩
  | close status exit =>
      exact ⟨hnow, forall_closed (fun s hs _ => h.steps s hs)
        (fun _ _ _ => hnow)⟩

/-- No effect leaves a record without a stamp. -/
theorem Effect.stamped (heff : Effect engine turn next)
    (h : ∀ e ∈ engine.executions, e.Stamped now) (hle : now ≤ turn.now) :
    ∀ e ∈ next.executions, e.Stamped turn.now := by
  intro x hx
  cases heff.origin hx with
  | kept hx => exact (h x hx).later hle
  | changed he _ hxe =>
      rw [hxe]
      exact Change.stamped ((h _ he).later hle)
  | begun _ hxe =>
      rw [hxe]
      exact ⟨⟨_, rfl, Instant.le_refl _⟩, fun _ hs => nomatch hs⟩

/-- What is not covered after an effect has been ended since. -/
theorem Effect.endsAside (heff : Effect engine turn next)
    (hs : ∀ e ∈ engine.executions, e.Stamped now) (hle : now ≤ turn.now)
    (h : engine.EndsAside) : next.EndsAside := by
  intro x hx
  cases heff.origin hx with
  | kept hx => exact h x hx
  | @changed e change he _ hxe =>
      have hstamped : (change.on e turn.now).Stamped turn.now :=
        Change.stamped ((hs e he).later hle)
      rcases Change.lastUpdated_on e turn.now change with
        ⟨step, status, rfl⟩ | hnow
      · -- the others stand to the execution as they did
        rw [hxe]
        exact forall_putStep (h e he) (.inr rfl)
      · rw [hxe]
        exact fun s hmem => .inl (hstamped.covers hnow s hmem)
  | begun _ hxe =>
      rw [hxe]
      exact fun _ hmem => nomatch hmem

-- ================================================================= the plays

/-- A turn leaves the executions covering their steps exactly if it ends
no step late. -/
theorem covered_take_iff (hn : engine.Numbered)
    (hs : ∀ e ∈ engine.executions, e.Stamped now) (hle : now ≤ turn.now)
    (hc : engine.Covered) :
    (engine.take turn).Covered ↔ Prompt engine turn := by
  constructor
  · intro hnext x hx
    obtain ⟨step, hstep, status, hmem, hafter⟩ := exists_closed hn hx
    have hended : ended step status turn.now
        ∈ ((Change.closeStep step status).on x turn.now).steps :=
      mem_putStep.2 (.inr ⟨rfl, step, hstep, rfl⟩)
    obtain ⟨b, hb, c, hcx, hbc⟩ := hnext _ hafter _ hended
    obtain rfl : turn.now = b := Option.some.inj hb
    obtain ⟨c', hc', hcn⟩ := (hs x hmem).own
    obtain rfl : c' = c := Option.some.inj (hc'.symm.trans hcx)
    rw [Instant.le_antisymm hbc (Instant.le_trans hcn hle)]
    exact hc'
  · intro hprompt x hx
    cases (hn.effect turn).origin hx with
    | kept hx => exact hc x hx
    | @changed e change he hm hxe =>
        have hstamped : (change.on e turn.now).Stamped turn.now :=
          Change.stamped ((hs e he).later hle)
        rw [hxe]
        rcases Change.lastUpdated_on e turn.now change with
          ⟨step, status, rfl⟩ | hnow
        · exact hstamped.covers (hprompt e (hm.closing? (hn.find he)))
        · exact hstamped.covers hnow
    | begun _ hxe =>
        rw [hxe]
        exact fun _ hmem => nomatch hmem

/-- Up to a turn the clock does not go back either. -/
theorem Onward.before {before after : List Turn}
    (h : Onward (before ++ turn :: after) now) :
    Onward before turn.now := by
  refine List.Pairwise.sublist ?_ h
  simp

/-- Nor up to a cut. -/
theorem Onward.cut {cut rest : List Turn} (h : Onward (cut ++ rest) now) :
    Onward cut now := by
  refine List.Pairwise.sublist ?_ h
  simp

section Plays

variable {definitions : List JobDefinition} {pace : Option Nat}

/-- At the end of a play every record is stamped, and what is not covered
has been ended since. -/
private theorem stamped_play (definitions : List JobDefinition)
    (pace : Option Nat) (hc : Onward turns now) :
    let engine := (fresh definitions pace).play turns
    engine.Numbered ∧ (∀ e ∈ engine.executions, e.Stamped now)
      ∧ engine.EndsAside := by
  refine play_onward (P := fun now engine => engine.Numbered
    ∧ (∀ e ∈ engine.executions, e.Stamped now) ∧ engine.EndsAside)
    ?_ ?_ ?_ (follows_anything turns) hc
  · rintro now engine turn ⟨hn, hs, ha⟩ - hle
    exact ⟨hn.take turn, (hn.effect turn).stamped hs hle,
      (hn.effect turn).endsAside hs hle ha⟩
  · rintro now moment engine ⟨hn, hs, ha⟩ hle
    exact ⟨hn, fun e he => (hs e he).later hle, ha⟩
  · intro start
    exact ⟨numbered_fresh definitions pace, (fun _ h => nomatch h),
      fun _ h => nomatch h⟩

/-- As long as the clock does not go back, executions cover their steps
all along a play exactly if every step is ended promptly; and a step that
is not covered in the end has been ended since its execution was last
written to. -/
theorem covered_iff_prompt (hc : Onward turns now) :
    ((∀ cut, cut <+: turns → ((fresh definitions pace).play cut).Covered)
        ↔ Follows Prompt (fresh definitions pace) turns)
      ∧ ((fresh definitions pace).play turns).EndsAside := by
  refine ⟨⟨fun hall => ?_, fun hf cut hcut => ?_⟩,
    (stamped_play definitions pace hc).2.2⟩
  · rw [follows_iff]
    rintro before turn after rfl
    obtain ⟨hn, hs, -⟩ := stamped_play definitions pace hc.before
    have hbefore := hall before (List.prefix_append _ _)
    have hafter := hall (before ++ [turn]) ⟨after, by simp⟩
    rw [play_append] at hafter
    exact (covered_take_iff hn hs (Instant.le_refl _) hbefore).1 hafter
  · obtain ⟨rest, rfl⟩ := hcut
    refine (play_onward (P := fun now engine => (engine.Numbered
      ∧ ∀ e ∈ engine.executions, e.Stamped now) ∧ engine.Covered)
      ?_ ?_ ?_ (follows_append.1 hf).1 hc.cut).2
    · rintro now engine turn ⟨⟨hn, hs⟩, hcov⟩ hprompt hle
      exact ⟨⟨hn.take turn, (hn.effect turn).stamped hs hle⟩,
        (covered_take_iff hn hs hle hcov).2 hprompt⟩
    · rintro now moment engine ⟨⟨hn, hs⟩, hcov⟩ hle
      exact ⟨⟨hn, fun e he => (hs e he).later hle⟩, hcov⟩
    · intro start
      exact ⟨⟨numbered_fresh definitions pace, fun _ h => nomatch h⟩,
        fun _ h => nomatch h⟩

end Plays

-- ------------------------------------------------------------------ two ends

/-- A job that anyone may work through, in an engine without runners. -/
def handDriven : Engine := fresh [{ name := "import" }] none

/-- A step of it is started and reads. -/
def readsOnce : List Turn :=
  [⟨.launch "import" .empty, 0, 0⟩, ⟨.startStep 1 "read", 1, 0⟩,
    ⟨.recordChunk 1 1 5, 2, 0⟩]

/-- Ended together with its last chunk, the step is covered. -/
theorem endedAtOnce_covered :
    Onward (readsOnce ++ [⟨.finishStep 1 1 .completed, 2, 0⟩]) ⟨3, 0⟩
      ∧ (handDriven.play
          (readsOnce ++ [⟨.finishStep 1 1 .completed, 2, 0⟩])).Covered := by
  have hc : Onward (readsOnce ++ [⟨.finishStep 1 1 .completed, 2, 0⟩])
      ⟨3, 0⟩ := by decide
  exact ⟨hc, (covered_iff_prompt hc).1.2 (by decide) _ List.prefix_rfl⟩

/-- Ended a second later, it is not: the execution still shows the second
of the chunk. -/
theorem endedLater_uncovered :
    Onward (readsOnce ++ [⟨.finishStep 1 1 .completed, 3, 0⟩]) ⟨3, 0⟩
      ∧ ((handDriven.play (readsOnce
          ++ [⟨.finishStep 1 1 .completed, 3, 0⟩])).executions.map fun e =>
            (e.lastUpdated, e.steps.map (·.lastUpdated)))
          = [(some ⟨2, 0⟩, [some ⟨3, 0⟩])]
      ∧ ¬(handDriven.play
          (readsOnce ++ [⟨.finishStep 1 1 .completed, 3, 0⟩])).Covered := by
  decide

end Engine

end BatchAdmin
