/-
Finished executions that a runner overwrites.

A runner never asks whether its execution still runs. Ending an execution
from outside does not end its runner, and the runner's next moves work on
the record as if nothing had happened: they start steps, record chunks,
and in the end close the execution a second time with a status of their
own. There is always such a move ahead (`Moves.alters`), at the latest
the one after the next: a runner that rests looks for a stop, finds none,
since the execution is not stopping but has ended, and records its chunk.

So a finished execution is final exactly if it has no runner
(`final_iff_free`), and the finished executions of a play are final all
along exactly if nobody ends an execution that a runner answers for
(`final_iff_unattended`).
-/
import BatchAdmin.Proofs.Engine.Finality

namespace BatchAdmin.Engine

variable {engine next : Engine} {turn : Turn} {x : Execution}

-- ================================================================== the end

/-- Two records of an execution tell the same end of it. -/
structure SameEnd (x y : Execution) : Prop where
  id : y.id = x.id
  status : y.status = x.status
  exit : y.exit = x.exit
  endTime : y.endTime = x.endTime
  steps : y.steps = x.steps

/-- Times have a later moment that is none of them. -/
private theorem exists_moment (times : List (Option Instant)) :
    ∃ now : Instant, some now ∉ times := by
  have hbound : ∃ n : Int, ∀ i : Instant, some i ∈ times →
      i.seconds < n := by
    induction times with
    | nil => exact ⟨0, nofun⟩
    | cons t rest ih =>
        obtain ⟨n, hn⟩ := ih
        cases t with
        | none =>
            refine ⟨n, fun i hi => hn i ?_⟩
            simpa using hi
        | some j =>
            refine ⟨max n (j.seconds + 1), fun i hi => ?_⟩
            rcases List.mem_cons.1 hi with hi | hi
            · cases hi
              omega
            · have hlt := hn i hi
              omega
  obtain ⟨n, hn⟩ := hbound
  exact ⟨⟨n, 0⟩, fun hmem => Int.lt_irrefl n (hn ⟨n, 0⟩ hmem)⟩

/-- Putting a step back leaves the steps as they are only if it is the
step that was there. -/
private theorem eq_of_putStep_eq {s : StepExecution} (s' : StepExecution)
    (hu : (x.steps.map (·.id)).Nodup) (hs : s ∈ x.steps)
    (hid : s'.id = s.id) (h : (x.putStep s').steps = x.steps) :
    s' = s := by
  have hmem : s' ∈ (x.putStep s').steps :=
    mem_putStep.2 (.inr ⟨rfl, s, hs, hid.symm⟩)
  rw [h] at hmem
  exact List.inj_on_of_nodup_map hu hmem hs hid

/-- A move on an execution that has ended alters it, or is a look for a
stop that will be followed by a chunk. -/
theorem Moves.alters {r : Runner} {change : Option Change}
    {left : Option Runner} {now : Instant}
    (hm : Moves engine now x r change left) (hn : engine.Numbered)
    (hx : x ∈ engine.executions) (hended : x.isRunning = false)
    (hnow : some now ∉ x.endTime :: x.steps.map (·.endTime)) :
    (∃ c, change = some c ∧ ¬SameEnd x (c.on x now))
      ∨ (change = none
        ∧ (∃ id ticks wake, r.phase = .resting id ticks wake)
        ∧ ∃ r' id ticks, left = some r'
            ∧ r'.phase = .recording id ticks) := by
  have hu := nodup_of_rising (hn.steps x hx)
  have hend : some now ≠ x.endTime := fun h =>
    hnow (List.mem_cons.2 (.inl h))
  have hchunk : ∀ {id : Int} {step : StepExecution},
      x.step? id = some step →
      ¬SameEnd x ((Change.chunk step itemsPerTick).on x now) := by
    intro id step hs h
    have hsame := eq_of_putStep_eq (withChunk step itemsPerTick now) hu
      (mem_of_step? hs).1 rfl h.steps
    exact absurd (congrArg (·.commitCount) hsame) (Nat.succ_ne_self _)
  cases hm with
  | endStopped _ _ _ => exact .inl ⟨_, rfl, fun h => hend h.endTime⟩
  | endCompleted _ _ _ => exact .inl ⟨_, rfl, fun h => hend h.endTime⟩
  | halt _ => exact .inl ⟨_, rfl, fun h => hend h.endTime⟩
  | openStep _ _ =>
      refine .inl ⟨_, rfl, fun h => ?_⟩
      have hlength : x.steps.length + 1 = x.steps.length := by
        simpa [Change.on] using congrArg List.length h.steps
      omega
  | chunk _ hs _ => exact .inl ⟨_, rfl, hchunk hs⟩
  | lastChunk _ hs _ => exact .inl ⟨_, rfl, hchunk hs⟩
  | @closeStep _ step _ hs =>
      refine .inl ⟨_, rfl, fun h => ?_⟩
      have hmem := (mem_of_step? hs).1
      have hsame := eq_of_putStep_eq (ended step .completed now) hu hmem
        rfl h.steps
      have htime : some now = step.endTime := congrArg (·.endTime) hsame
      exact hnow (List.mem_cons.2 (.inr (htime ▸ List.mem_map_of_mem hmem)))
  | seeNone hp _ => exact .inr ⟨rfl, ⟨_, _, _, hp⟩, _, _, _, rfl, rfl⟩
  | seeStop _ hs =>
      -- what has ended is not stopping
      unfold Execution.isRunning at hended
      rw [hs] at hended
      cases hended

/-- A turn of the runner that changes the execution leaves no record with
the same end. -/
private theorem altered_of_move {change : Change}
    {left : Option Runner} {now : Instant}
    (he : engine.execution? x.id = some x)
    (halters : ¬SameEnd x (change.on x now)) :
    ∀ y ∈ ((engine.reviseBy x now (some change)).keepRunner x.id
        left).executions, ¬SameEnd x y := by
  intro y hy hsame
  rcases (mem_revise he).1 hy with ⟨-, hne⟩ | rfl
  · exact hne hsame.id
  · exact halters hsame

/-- The turns of a runner are within the rule. -/
private theorem follows_runs {id : Int} {now : Instant} (n : Nat) :
    Follows Documented engine (List.replicate n ⟨.run id, now⟩) := by
  induction n generalizing engine with
  | zero => trivial
  | succ n ih => exact ⟨trivial, ih⟩

/-- A turn of an execution's runner is one of the moves. -/
private theorem Numbered.run_eq (hn : engine.Numbered)
    (hx : x ∈ engine.executions) {r : Runner} (hr : r ∈ engine.runners)
    (hid : r.execution = x.id) (now : Instant) :
    ∃ change left, Moves engine now x r change left
      ∧ engine.take ⟨.run x.id, now⟩
          = (engine.reviseBy x now change).keepRunner x.id left := by
  have hfind := hn.findRunner hr
  rw [hid] at hfind
  obtain ⟨e, change, left, he, hm, hdrive⟩ :=
    drive_eq now hfind (hn.known r hr)
  rw [hn.find hx] at he
  injection he with he
  subst he
  exact ⟨change, left, hm, hdrive⟩

/-- A runner can alter its execution after it has ended, in two turns at
most. -/
theorem Numbered.alters (hn : engine.Numbered)
    (hx : x ∈ engine.executions) (hended : x.isRunning = false)
    {r : Runner} (hr : r ∈ engine.runners) (hid : r.execution = x.id) :
    ∃ now n, ∀ y ∈ (engine.play
        (List.replicate n ⟨.run x.id, now⟩)).executions, ¬SameEnd x y := by
  obtain ⟨now, hnow⟩ :=
    exists_moment (x.endTime :: x.steps.map (·.endTime))
  obtain ⟨change, left, hm, hrun⟩ := hn.run_eq hx hr hid now
  rcases hm.alters hn hx hended hnow with
    ⟨c, rfl, halters⟩ | ⟨rfl, -, r', id, ticks, rfl, hp⟩
  · refine ⟨now, 1, ?_⟩
    show ∀ y ∈ (engine.take ⟨.run x.id, now⟩).executions, _
    rw [hrun]
    exact altered_of_move (hn.find hx) halters
  · -- the look for a stop touches the runner only; its next move is a chunk
    have hrun : engine.take ⟨.run x.id, now⟩
        = engine.keepRunner x.id (some r') := hrun
    have hn' := hn.take ⟨.run x.id, now⟩
    rw [hrun] at hn'
    have hr' : r' ∈ (engine.keepRunner x.id (some r')).runners :=
      mem_keepRunner.2 (.inr ⟨rfl, r, hr, hid⟩)
    obtain ⟨change, left, hm', hrun'⟩ :=
      hn'.run_eq hx hr' (hm.execution.trans hid) now
    rcases hm'.alters hn' hx hended hnow with
      ⟨c, rfl, halters⟩ | ⟨-, ⟨_, _, _, hp'⟩, -⟩
    · refine ⟨now, 2, ?_⟩
      show ∀ y ∈ ((engine.take ⟨.run x.id, now⟩).take
        ⟨.run x.id, now⟩).executions, _
      rw [hrun, hrun']
      exact altered_of_move (hn'.find hx) halters
    · rw [hp] at hp'
      cases hp'

/-- An execution that has ended is final exactly if it has no runner. -/
theorem Numbered.final_iff_free (hn : engine.Numbered)
    (hx : x ∈ engine.executions) (hended : x.isRunning = false) :
    (∀ more, Follows Documented engine more →
        ∃ y ∈ (engine.play more).executions, SameEnd x y)
      ↔ ∀ r ∈ engine.runners, r.execution ≠ x.id := by
  constructor
  · intro hfinal r hr hid
    obtain ⟨now, n, halters⟩ := hn.alters hx hended hr hid
    obtain ⟨y, hy, hsame⟩ := hfinal _ (follows_runs n)
    exact halters y hy hsame
  · intro hfree more hmore
    have hfinal : engine.Final x := ⟨hx, hended, hfree⟩
    exact ⟨x, (hfinal.play hn hmore).there, rfl, rfl, rfl, rfl, rfl⟩

-- ================================================================= the plays

/-- Whatever is answered for has a runner that does so. -/
def Answered (engine : Engine) : Prop :=
  ∀ id ∈ engine.attached, ∃ r ∈ engine.runners, r.execution = id

/-- No effect leaves an execution answered for by nobody. -/
theorem Effect.answered (heff : Effect engine turn next)
    (ha : engine.Answered) : next.Answered := by
  have hsub : ∀ {id : Int} {e : Execution} {change : Change},
      id ∈ change.attached e.id engine.attached → id ∈ engine.attached := by
    intro id e change hid
    cases change with
    | close status exit => exact (List.mem_filter.1 hid).1
    | _ => exact hid
  intro id hid
  cases heff with
  | quiet => exact ha id hid
  | wasted => exact ha id hid
  | called he hc => exact ha id (hsub hid)
  | @moved e r change left _ he hr hm =>
      obtain ⟨hat, hrid⟩ := mem_of_runner? hr
      have hold : id ∈ engine.attached := by
        cases change with
        | none => exact hid
        | some change => exact hsub hid
      by_cases hide : id = e.id
      · cases left with
        | some r' =>
            refine ⟨r', mem_keepRunner.2 (.inr ⟨rfl, r, ?_, hrid⟩),
              hm.execution.trans (hrid.trans hide.symm)⟩
            rw [runners_reviseBy]
            exact hat
        | none =>
            -- with its last move a runner ends what it answered for
            obtain ⟨status, exit, rfl, -⟩ := hm.last
            have hne := (List.mem_filter.1 hid).2
            simp [hide] at hne
      · obtain ⟨r', hr', hr'id⟩ := ha id hold
        refine ⟨r', mem_keepRunner.2 (.inl ⟨?_, hr'id ▸ hide⟩), hr'id⟩
        rw [runners_reviseBy]
        exact hr'
  | @begun engine₀ job i parameters steps ho =>
      obtain ⟨-, -, -, hatt, hruns, -⟩ := ho.same
      rw [begin_eq] at hid
      rcases List.mem_append.1 hid with hid | hid
      · obtain ⟨r, hr, hrid⟩ := ha id (hatt ▸ hid)
        exact ⟨r, mem_runners_begin.2 (.inl (hruns ▸ hr)), hrid⟩
      · by_cases hp : engine₀.pace.isSome = true
        · rw [if_pos hp] at hid
          exact ⟨_, mem_runners_begin.2 (.inr ⟨hp, rfl⟩),
            (List.mem_singleton.1 hid).symm⟩
        · rw [if_neg hp] at hid
          cases hid

/-- Whatever is answered for at the end of a play has a runner. -/
theorem answered_play (definitions : List JobDefinition)
    (pace : Option Nat) (turns : List Turn) :
    ((fresh definitions pace).play turns).Answered := by
  refine (play_keeps (P := fun engine => engine.Numbered ∧ engine.Answered)
    (fun engine turn h _ => ⟨h.1.take turn, ?_⟩)
    ⟨numbered_fresh definitions pace, fun _ h => nomatch h⟩
    (follows_anything turns)).2
  exact (h.1.effect turn).answered h.2

/-- Ending an execution that a runner answers for leaves it ended, with
its runner. -/
private theorem ended_with_runner {id : Int} {status : Status}
    {exit : ExitStatus} {now : Instant} (ha : engine.Answered)
    (hruns : engine.runs id = true) (hs : status.isRunning = false)
    (hatt : id ∈ engine.attached) :
    ∃ x ∈ (engine.take ⟨.finish id status exit, now⟩).executions,
      x.isRunning = false
        ∧ ∃ r ∈ (engine.take ⟨.finish id status exit, now⟩).runners,
            r.execution = x.id := by
  obtain ⟨e, he, -⟩ := runs_eq_true.1 hruns
  have hid := (mem_of_execution? he).2
  subst hid
  have htake : engine.take ⟨.finish e.id status exit, now⟩
      = engine.revise e (.close status exit) now :=
    congrArg Prod.snd (finish_eq he status exit)
  rw [htake]
  obtain ⟨r, hr, hrid⟩ := ha e.id hatt
  exact ⟨_, (mem_revise he).2 (.inr rfl), hs, r, hr, hrid⟩

/-- All along a play within the rule, no step of a finished execution runs
and nothing within the rule can alter a finished execution, exactly if
nobody ends an execution that a runner answers for. -/
theorem final_iff_unattended {definitions : List JobDefinition}
    {pace : Option Nat} {turns : List Turn}
    (hf : Follows Documented (fresh definitions pace) turns) :
    (∀ cut, cut <+: turns →
        ∀ x ∈ ((fresh definitions pace).play cut).executions,
          x.isRunning = false →
          (∀ s ∈ x.steps, s.status.isRunning = false)
            ∧ ∀ more, Follows Documented ((fresh definitions pace).play cut)
                more →
              ∃ y ∈ ((fresh definitions pace).play
                (cut ++ more)).executions, SameEnd x y)
      ↔ Follows Unattended (fresh definitions pace) turns := by
  constructor
  · intro hfinal
    rw [follows_iff] at hf ⊢
    rintro before turn after rfl
    have hrule := hf before turn after rfl
    have ha := answered_play definitions pace before
    obtain ⟨act, now⟩ := turn
    cases act with
    | finish id status exit =>
        obtain ⟨hruns, hs⟩ := hrule
        refine ⟨hruns, fun hatt => ?_, hs⟩
        obtain ⟨x, hx, hended, r, hr, hid⟩ :=
          ended_with_runner ha hruns hs hatt
        have hcut : before ++ [⟨.finish id status exit, now⟩] <+:
            before ++ ⟨.finish id status exit, now⟩ :: after :=
          ⟨after, by simp⟩
        have hlast := play_append (fresh definitions pace) before
          [⟨.finish id status exit, now⟩]
        have hn := numbered_play definitions pace
          (before ++ [⟨.finish id status exit, now⟩])
        have hx' : x ∈ ((fresh definitions pace).play
            (before ++ [⟨.finish id status exit, now⟩])).executions := by
          rw [hlast]
          exact hx
        have hfree := (hn.final_iff_free hx' hended).1 fun more hmore => by
          rw [← play_append]
          exact (hfinal _ hcut x hx' hended).2 more hmore
        rw [hlast] at hfree
        exact hfree r hr hid
    | _ => trivial
  · rintro hun cut ⟨rest, rfl⟩ x hx hended
    have hcutD := (follows_append.1 hf).1
    have hcutU := (follows_append.1 hun).1
    have ha := (attended_fresh definitions pace).play hcutU
    have hfree : ∀ r ∈ ((fresh definitions pace).play cut).runners,
        r.execution ≠ x.id := by
      intro r hr hid
      have hfind := ha.numbered.findRunner hr
      rw [hid] at hfind
      have hrun := ha.driving.runs ha.numbered hx hfind
      rw [hended] at hrun
      cases hrun
    refine ⟨tidy_play hcutD x ⟨hx, hended, hfree⟩, fun more hmore => ?_⟩
    rw [play_append]
    exact (ha.numbered.final_iff_free hx hended).2 hfree more hmore

-- ---------------------------------------------------------- an overwriting

/-- An engine that knows one job, without steps. -/
def nightly (pace : Option Nat) : Engine :=
  fresh [{ name := "nightly" }] pace

/-- The job is launched and fails. -/
def failedEarly : List Turn :=
  [⟨.launch "nightly" .empty, 0, 0⟩,
    ⟨.finish 1 .failed (.failed "disk full"), 1, 0⟩]

/-- With the next move of its runner the failed execution has completed. -/
theorem failedEarly_overwritten :
    Follows Documented (nightly (some 1000))
        (failedEarly ++ [⟨.run 1, 2, 0⟩])
      ∧ ((nightly (some 1000)).play failedEarly).executions.map
          (fun x => (x.status, x.exit))
          = [(.failed, some (.failed "disk full"))]
      ∧ ((nightly (some 1000)).play
          (failedEarly ++ [⟨.run 1, 2, 0⟩])).executions.map
            (fun x => (x.status, x.exit))
          = [(.completed, some .completed)] := by
  decide

/-- In an engine without runners it has failed for good. -/
theorem failedEarly_final :
    Follows Documented (nightly none) failedEarly
      ∧ ((nightly none).play failedEarly).executions.map (·.status)
          = [.failed]
      ∧ ∀ x ∈ ((nightly none).play failedEarly).executions,
          ∀ more, Follows Documented ((nightly none).play failedEarly)
              more →
            ∃ y ∈ ((nightly none).play (failedEarly ++ more)).executions,
              SameEnd x y := by
  have hf : Follows Documented (nightly none) failedEarly := by decide
  refine ⟨hf, by decide, fun x hx more hmore => ?_⟩
  have hended : ∀ x ∈ ((nightly none).play failedEarly).executions,
      x.isRunning = false := by decide
  have hfinal := (final_iff_unattended hf).2 (by decide) failedEarly
    List.prefix_rfl x hx (hended x hx)
  exact hfinal.2 more hmore

end BatchAdmin.Engine
