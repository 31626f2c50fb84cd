/-
How far a runner has come, as the record of its execution tells it.

A runner takes the steps of its job in order, ten chunks of ten items to
each. As long as executions are left to their runners, the record of an
execution shows at any moment how far that has gone (`Headway`): its steps
are the first ones of its job, all but the last were got through (`Whole`),
each tells the same number of chunks by all its counts (`Tallied`), and the
last one runs, was got through or was stopped on the way (`Standing`).

While the runner is at work more is known, namely where in the record it
is (`OnTrack`). Behind the steps that it got through there is at most one,
which it has started and not ended; its phase says which, and how many
chunks it has. A move takes the runner from one place to the next, and with
its last one what is left is the headway made (`Moves.headway`). Clients do
not touch the steps, and a stop is seen either at a tick, when the step at
hand still lacks a chunk, or behind the last step.
-/
import BatchAdmin.Proofs.Engine.Stopping

namespace BatchAdmin

-- ========================================================== what a step tells

namespace StepExecution

/-- Ten items were read and written with each commit, of which there are
ten at most, and the context tells how many were read once there is one. -/
structure Tallied (s : StepExecution) : Prop where
  read : s.readCount = 10 * s.commitCount
  written : s.writeCount = 10 * s.commitCount
  commits : s.commitCount ≤ 10
  context : s.context
    = if s.commitCount = 0 then []
      else [(Engine.readCountKey, .nat s.readCount)]

/-- The step was got through. -/
def Whole (s : StepExecution) : Prop :=
  s.status = .completed ∧ s.commitCount = 10

/-- The step runs, was got through or was stopped on the way. -/
def Standing (s : StepExecution) : Prop :=
  s.status = .started ∨ s.Whole ∨ s.status = .stopped ∧ s.commitCount < 10

variable {s : StepExecution}

/-- One more chunk is told by all counts. -/
theorem Tallied.withChunk (h : s.Tallied) (hlt : s.commitCount < 10)
    (now : Instant) :
    (Engine.withChunk s Engine.itemsPerTick now).Tallied := by
  obtain ⟨hread, hwritten, -, hcontext⟩ := h
  refine ⟨?_, ?_, hlt, ?_⟩
  · show s.readCount + 10 = 10 * (s.commitCount + 1)
    omega
  · show s.writeCount + 10 = 10 * (s.commitCount + 1)
    omega
  · -- the one field of the context is written anew, or for the first time
    have hmore : (Engine.withChunk s Engine.itemsPerTick now).commitCount
        ≠ 0 := Nat.succ_ne_zero s.commitCount
    rw [if_neg hmore]
    show Engine.setContext Engine.readCountKey _ s.context = _
    rw [hcontext]
    by_cases hzero : s.commitCount = 0
    · rw [if_pos hzero]
      rfl
    · rw [if_neg hzero]
      simp [Engine.setContext, Engine.withChunk]

/-- The end of a step leaves its counts. -/
theorem Tallied.ended (h : s.Tallied) (status : Status) (now : Instant) :
    (Engine.ended s status now).Tallied :=
  ⟨h.read, h.written, h.commits, h.context⟩

/-- A step that was got through does not run. -/
theorem Whole.ended (h : s.Whole) : s.status.isRunning = false := by
  rw [h.1]
  rfl

end StepExecution

-- ===================================================== what an execution tells

/-- The record shows how far a runner has come with these steps. -/
structure Execution.Headway (steps : List String) (x : Execution) :
    Prop where
  /-- Its steps are the first of them. -/
  names : x.steps.map (·.name) <+: steps
  tallied : ∀ s ∈ x.steps, s.Tallied
  /-- All but the last were got through. -/
  whole : ∀ s ∈ x.steps.dropLast, s.Whole
  last : ∀ s, x.steps.getLast? = some s → s.Standing
  /-- All were got through if it has completed. -/
  all : x.status = .completed →
    x.steps.map (·.name) = steps ∧ ∀ s ∈ x.steps, s.Whole

/-- Of steps that were got through with one more behind them at most, all
but the last were. -/
theorem Execution.Headway.of_parts {steps : List String} {x : Execution}
    {done rest : List StepExecution}
    (hnames : x.steps.map (·.name) <+: steps)
    (htallied : ∀ s ∈ x.steps, s.Tallied) (hsteps : x.steps = done ++ rest)
    (hdone : ∀ s ∈ done, s.Whole) (hone : rest.length ≤ 1)
    (hrest : ∀ s ∈ rest, s.Standing)
    (hall : x.status = .completed →
      x.steps.map (·.name) = steps ∧ ∀ s ∈ x.steps, s.Whole) :
    x.Headway steps := by
  refine ⟨hnames, htallied, ?_, ?_, hall⟩
  · intro s hs
    rw [hsteps] at hs
    cases rest with
    | nil =>
        rw [List.append_nil] at hs
        exact hdone s (List.dropLast_subset _ hs)
    | cons t more =>
        have hmore : more.length = 0 :=
          Nat.le_zero.1 (Nat.le_of_succ_le_succ hone)
        obtain rfl := List.length_eq_zero_iff.1 hmore
        rw [List.dropLast_concat] at hs
        exact hdone s hs
  · intro s hs
    have hmem := List.mem_of_getLast? hs
    rw [hsteps] at hmem
    rcases List.mem_append.1 hmem with hmem | hmem
    · exact .inr (.inl (hdone s hmem))
    · exact hrest s hmem

namespace Engine

variable {engine next : Engine} {turn : Turn} {e x : Execution}
  {r : Runner} {steps : List String} {now : Instant}
  {done rest : List StepExecution} {s s' : StepExecution}

-- ============================================================ where it is

/-- The step that a runner in this phase has started and not ended, if it
has: the one that the phase is about, with as many chunks as it says. -/
def Phase.Holds : Phase → List StepExecution → Prop
  | .starting, rest => rest = []
  | .resting id ticks _, rest | .recording id ticks, rest =>
      ∃ s, rest = [s] ∧ s.status = .started ∧ s.id = id
        ∧ s.commitCount = ticks ∧ ticks < 10
  | .closing id, rest =>
      ∃ s, rest = [s] ∧ s.status = .started ∧ s.id = id
        ∧ s.commitCount = 10
  | .stopping, rest =>
      ∃ s, rest = [s] ∧ s.status = .started ∧ s.commitCount < 10

/-- It is one step at most, and it runs. -/
theorem Phase.Holds.started {phase : Phase} (h : Phase.Holds phase rest) :
    rest.length ≤ 1 ∧ ∀ s ∈ rest, s.status = .started := by
  have hone : ∀ s : StepExecution, s.status = .started →
      [s].length ≤ 1 ∧ ∀ s' ∈ [s], s'.status = .started := by
    intro s hs
    exact ⟨Nat.le_refl _, List.forall_mem_singleton.2 hs⟩
  cases phase with
  | starting =>
      rw [show rest = [] from h]
      exact ⟨Nat.zero_le _, List.forall_mem_nil _⟩
  | resting _ _ _ =>
      obtain ⟨s, rfl, hs, -⟩ := h
      exact hone s hs
  | recording _ _ =>
      obtain ⟨s, rfl, hs, -⟩ := h
      exact hone s hs
  | closing _ =>
      obtain ⟨s, rfl, hs, -⟩ := h
      exact hone s hs
  | stopping =>
      obtain ⟨s, rfl, hs, -⟩ := h
      exact hone s hs

/-- What the record of an execution shows while its runner is at work. -/
structure OnTrack (steps : List String) (r : Runner) (x : Execution) :
    Prop where
  /-- What it has started and what it has to do are all there is. -/
  names : x.steps.map (·.name) ++ r.todo = steps
  tallied : ∀ s ∈ x.steps, s.Tallied
  parts : ∃ done rest, x.steps = done ++ rest ∧ (∀ s ∈ done, s.Whole)
    ∧ Phase.Holds r.phase rest

/-- What is on track and runs shows headway. -/
theorem OnTrack.headway (h : OnTrack steps r x)
    (hrun : x.isRunning = true) : x.Headway steps := by
  obtain ⟨hnames, htallied, done, rest, hsteps, hdone, hholds⟩ := h
  obtain ⟨hone, hstarted⟩ := hholds.started
  refine .of_parts ⟨r.todo, hnames⟩ htallied hsteps hdone hone
    (fun s hs => .inl (hstarted s hs)) ?_
  intro hcompleted
  unfold Execution.isRunning at hrun
  rw [hcompleted] at hrun
  cases hrun

/-- So it does with the runner that is left in place. -/
private theorem OnTrack.goes_on (h : OnTrack steps r x)
    (hrun : x.isRunning = true) :
    x.Headway steps ∧ ∀ r', some r = some r' → OnTrack steps r' x := by
  refine ⟨h.headway hrun, ?_⟩
  intro r' hr'
  rw [← Option.some.inj hr']
  exact h

-- =========================================================== what is written

/-- The step that is found is the last one. -/
private theorem step_eq_last {id : Int}
    (hu : (e.steps.map (·.id)).Nodup) (hsteps : e.steps = done ++ [s])
    (hid : s.id = id) (hs : e.step? id = some s') : s' = s := by
  have hmem : s ∈ e.steps := by
    rw [hsteps]
    exact List.mem_append_right _ (List.mem_singleton_self s)
  have hfind := step?_of_mem hu hmem
  rw [hid, hs] at hfind
  exact Option.some.inj hfind

/-- The last step is put back. -/
private theorem putStep_last (hu : (e.steps.map (·.id)).Nodup)
    (hsteps : e.steps = done ++ [s]) (hid : s'.id = s.id) :
    (e.putStep s').steps = done ++ [s'] := by
  unfold Execution.putStep
  rw [hsteps, List.map_append, List.nodup_append] at hu
  show e.steps.map _ = _
  rw [hsteps, List.map_append, List.map_singleton, if_pos hid.symm]
  -- no step in front of it has its id
  congr 1
  refine (List.map_congr_left fun x hx => if_neg ?_).trans (List.map_id _)
  intro hsame
  exact hu.2.2 x.id (List.mem_map_of_mem hx) s.id
    (List.mem_map_of_mem (List.mem_singleton_self s)) (hsame.trans hid)

/-- When a runner has put back its last step, the record is as on track
for the runner that is left as the steps are with the new one. -/
private theorem OnTrack.put {r' : Runner}
    {done' rest' : List StepExecution} (h : OnTrack steps r e)
    (hu : (e.steps.map (·.id)).Nodup) (hsteps : e.steps = done ++ [s])
    (hs' : s'.Tallied) (hid : s'.id = s.id) (hname : s'.name = s.name)
    (hx : x.steps = (e.putStep s').steps) (htodo : r'.todo = r.todo)
    (hcut : done ++ [s'] = done' ++ rest') (hdone : ∀ s ∈ done', s.Whole)
    (hholds : Phase.Holds r'.phase rest') : OnTrack steps r' x := by
  have hlast : x.steps = done ++ [s'] :=
    hx.trans (putStep_last hu hsteps hid)
  refine ⟨?_, ?_, done', rest', hlast.trans hcut, hdone, hholds⟩
  · rw [htodo, hlast, ← h.names, hsteps]
    simp [hname]
  · rw [hx]
    exact forall_putStep h.tallied hs'

/-- Of the steps of an execution that is ended those that were got through
are left. -/
private theorem closed_parts {status : Status} {exit : ExitStatus}
    (hsteps : e.steps = done ++ rest) (hdone : ∀ s ∈ done, s.Whole)
    (hrest : ∀ s ∈ rest, s.status = .started) :
    (closed e status exit now).steps
      = done ++ rest.map fun s => ended s status now := by
  show e.steps.map _ = _
  rw [hsteps, List.map_append]
  congr 1
  · refine (List.map_congr_left fun s hs => ?_).trans (List.map_id _)
    rw [(hdone s hs).ended]
    rfl
  · refine List.map_congr_left fun s hs => ?_
    rw [hrest s hs]
    rfl

/-- An execution that its runner ends shows how far the runner had come:
it had got through all steps, or it stops in the middle of one. -/
private theorem OnTrack.closed {status : Status} {exit : ExitStatus}
    (h : OnTrack steps r e)
    (hend : r.phase = .starting ∧ r.todo = []
      ∨ r.phase = .stopping ∧ status = .stopped) :
    (closed e status exit now).Headway steps := by
  obtain ⟨hnames, htallied, done, rest, hsteps, hdone, hholds⟩ := h
  obtain ⟨hone, hstarted⟩ := hholds.started
  have hparts : (Engine.closed e status exit now).steps
      = done ++ rest.map fun s => ended s status now :=
    closed_parts hsteps hdone hstarted
  have hsame : (Engine.closed e status exit now).steps.map (·.name)
      = e.steps.map (·.name) := by
    rw [hparts, hsteps]
    simp [ended]
  refine .of_parts ?_ ?_ hparts hdone ?_ ?_ ?_
  · rw [hsame]
    exact ⟨r.todo, hnames⟩
  · exact forall_closed (fun s hs _ => htallied s hs)
      (fun s hs _ => (htallied s hs).ended status now)
  · rw [List.length_map]
    exact hone
  · intro s hs
    obtain ⟨s₀, hs₀, rfl⟩ := List.mem_map.1 hs
    rcases hend with ⟨hp, -⟩ | ⟨hp, hstopped⟩
    · rw [hp] at hholds
      obtain rfl : rest = [] := hholds
      cases hs₀
    · rw [hp] at hholds
      obtain ⟨s, rfl, -, hlt⟩ := hholds
      rw [List.mem_singleton.1 hs₀]
      exact .inr (.inr ⟨hstopped, hlt⟩)
  · intro hcompleted
    have hcompleted : status = .completed := hcompleted
    rcases hend with ⟨hp, ht⟩ | ⟨-, hstopped⟩
    · rw [hp] at hholds
      obtain rfl : rest = [] := hholds
      rw [hsame, ← hnames, ht, List.append_nil]
      refine ⟨rfl, ?_⟩
      intro s hs
      rw [hparts, List.map_nil, List.append_nil] at hs
      exact hdone s hs
    · rw [hstopped] at hcompleted
      cases hcompleted

-- ================================================================ the moves

/-- A move of its runner takes an execution from one place on the track to
the next, or ends it with the headway made. -/
theorem Moves.headway {change : Option Change} {left : Option Runner}
    (hm : Moves engine now e r change left)
    (hu : (e.steps.map (·.id)).Nodup) (hrun : e.isRunning = true)
    (h : OnTrack steps r e) :
    (change.elim e (·.on e now)).Headway steps
      ∧ ∀ r', left = some r' →
          OnTrack steps r' (change.elim e (·.on e now)) := by
  have ⟨hnames, htallied, done, rest, hsteps, hdone, hholds⟩ := h
  cases hm with
  | endStopped hp ht _ => exact ⟨h.closed (.inl ⟨hp, ht⟩), nofun⟩
  | endCompleted hp ht _ => exact ⟨h.closed (.inl ⟨hp, ht⟩), nofun⟩
  | @openStep name todo hp ht =>
      rw [hp] at hholds
      obtain rfl : rest = [] := hholds
      rw [List.append_nil] at hsteps
      subst hsteps
      refine OnTrack.goes_on ⟨?_, ?_, e.steps, _, rfl, hdone,
        _, rfl, rfl, rfl, rfl, by decide⟩ hrun
      · show (e.steps ++ [_]).map StepExecution.name ++ todo = steps
        rw [← hnames, ht]
        simp
      · intro s hs
        rcases List.mem_append.1 hs with hs | hs
        · exact htallied s hs
        · rw [List.mem_singleton.1 hs]
          exact ⟨rfl, rfl, Nat.zero_le _, rfl⟩
  | seeStop hp _ =>
      rw [hp] at hholds
      obtain ⟨s, hs, hstarted, -, hcount, hlt⟩ := hholds
      rw [← hcount] at hlt
      exact OnTrack.goes_on
        ⟨hnames, htallied, done, rest, hsteps, hdone, s, hs, hstarted, hlt⟩
        hrun
  | seeNone hp _ =>
      rw [hp] at hholds
      exact OnTrack.goes_on
        ⟨hnames, htallied, done, rest, hsteps, hdone, hholds⟩ hrun
  | @chunk id step ticks hp hs hmore =>
      rw [hp] at hholds
      obtain ⟨s, rfl, hstarted, hid, rfl, hlt⟩ := hholds
      obtain rfl := step_eq_last hu hsteps hid hs
      have htally :=
        (htallied step (mem_of_step? hs).1).withChunk hlt now
      refine OnTrack.goes_on (h.put hu hsteps htally rfl rfl rfl rfl rfl
        hdone ?_) hrun
      exact ⟨_, rfl, hstarted, hid, rfl, hmore⟩
  | @lastChunk id step ticks hp hs hmore =>
      rw [hp] at hholds
      obtain ⟨s, rfl, hstarted, hid, rfl, hlt⟩ := hholds
      obtain rfl := step_eq_last hu hsteps hid hs
      have htally :=
        (htallied step (mem_of_step? hs).1).withChunk hlt now
      refine OnTrack.goes_on (h.put hu hsteps htally rfl rfl rfl rfl rfl
        hdone ?_) hrun
      have hten : step.commitCount + 1 = 10 :=
        Nat.le_antisymm hlt (Nat.le_of_not_lt hmore)
      exact ⟨_, rfl, hstarted, hid, hten⟩
  | @closeStep id step hp hs =>
      rw [hp] at hholds
      obtain ⟨s, rfl, hstarted, hid, hten⟩ := hholds
      obtain rfl := step_eq_last hu hsteps hid hs
      have htally :=
        (htallied step (mem_of_step? hs).1).ended .completed now
      refine OnTrack.goes_on (h.put hu hsteps htally rfl rfl rfl rfl
        (List.append_nil _).symm ?_ rfl) hrun
      intro s hs
      rcases List.mem_append.1 hs with hs | hs
      · exact hdone s hs
      · rw [List.mem_singleton.1 hs]
        exact ⟨rfl, hten⟩
  | halt hp => exact ⟨h.closed (.inr ⟨hp, rfl⟩), nofun⟩

-- ================================================================ the turns

/-- Every execution has made headway with the steps of its job, and who
runs it is on track with them. -/
def Progressing (engine : Engine) : Prop :=
  ∀ x ∈ engine.executions, ∃ d, engine.definition? x.job = some d
    ∧ x.Headway d.steps
    ∧ ∀ r ∈ engine.runners, r.execution = x.id → OnTrack d.steps r x

/-- The steps that an execution is begun with are those of its job. -/
private theorem Opens.defined {act : Act} {engine₀ : Engine}
    {job : String} {i : Int} {parameters : Dict}
    (ho : Opens engine act engine₀ job i parameters steps) :
    ∃ d, engine.definition? job = some d ∧ d.steps = steps := by
  cases ho with
  | join hd _ _ => exact ⟨_, (launchable_eq_ok.1 hd).1, rfl⟩
  | found hd _ => exact ⟨_, (launchable_eq_ok.1 hd).1, rfl⟩
  | restart hr => exact ⟨_, (restartable_eq_ok.1 hr).2.2.1, rfl⟩

/-- A change, if there is one, leaves the job and the id. -/
private theorem elim_on (e : Execution) (now : Instant)
    (change : Option Change) :
    (change.elim e (·.on e now)).job = e.job
      ∧ (change.elim e (·.on e now)).id = e.id := by
  cases change with
  | none => exact ⟨rfl, rfl⟩
  | some change => exact ⟨Change.on_job .., Change.on_id ..⟩

/-- The executions after a runner's move: the others, and its own. -/
private theorem mem_of_moved (hn : engine.Numbered)
    (he : engine.execution? e.id = some e) {change : Option Change}
    (hx : x ∈ (engine.reviseBy e now change).executions) :
    (x ∈ engine.executions ∧ x.id ≠ e.id)
      ∨ x = change.elim e (·.on e now) := by
  cases change with
  | none =>
      by_cases hid : x.id = e.id
      · exact .inr (hn.eq_of_id_eq hx (mem_of_execution? he).1 hid)
      · exact .inl ⟨hx, hid⟩
  | some change => exact (mem_revise he).1 hx

/-- A stop leaves the headway and the track. -/
private theorem Progressing.marked (hp : engine.Progressing)
    (he : engine.execution? e.id = some e) :
    (engine.revise e .mark now).Progressing := by
  intro x hx
  rcases (mem_revise he).1 hx with ⟨hx, -⟩ | hx
  · exact hp x hx
  · obtain ⟨d, hd, hhead, hdriven⟩ := hp e (mem_of_execution? he).1
    subst hx
    refine ⟨d, hd, ⟨hhead.names, hhead.tallied, hhead.whole, hhead.last,
      nofun⟩, ?_⟩
    intro r hr hid
    have htrack := hdriven r hr hid
    exact ⟨htrack.names, htrack.tallied, htrack.parts⟩

/-- A runner's move leaves headway, and the runner on track. -/
private theorem Progressing.moved {change : Option Change}
    {left : Option Runner} (hp : engine.Progressing)
    (ha : engine.Attended) (he : engine.execution? e.id = some e)
    (hr : engine.runner? e.id = some r)
    (hm : Moves engine now e r change left) :
    ((engine.reviseBy e now change).keepRunner e.id left).Progressing := by
  have hmem := (mem_of_execution? he).1
  obtain ⟨hat, hrid⟩ := mem_of_runner? hr
  have hdefs : ∀ job, ((engine.reviseBy e now change).keepRunner e.id
      left).definition? job = engine.definition? job := by
    cases change <;> exact fun _ => rfl
  intro x hx
  rcases mem_of_moved ha.numbered he hx with ⟨hx, hne⟩ | rfl
  · -- another execution, whose runner did not move
    obtain ⟨d, hd, hhead, hdriven⟩ := hp x hx
    refine ⟨d, (hdefs _).trans hd, hhead, ?_⟩
    intro r' hr' hid
    rcases mem_keepRunner.1 hr' with ⟨hr', -⟩ | ⟨rfl, -⟩
    · rw [runners_reviseBy] at hr'
      exact hdriven r' hr' hid
    · exact absurd (hid.symm.trans (hm.execution.trans hrid)) hne
  · obtain ⟨d, hd, -, hdriven⟩ := hp e hmem
    obtain ⟨hjob, hid⟩ := elim_on e now change
    obtain ⟨hhead, htrack⟩ :=
      hm.headway (nodup_of_rising (ha.numbered.steps e hmem))
        (ha.driving.runs ha.numbered hmem hr) (hdriven r hat hrid)
    rw [← hjob] at hd
    refine ⟨d, (hdefs _).trans hd, hhead, ?_⟩
    intro r' hr' hrid'
    rcases mem_keepRunner.1 hr' with ⟨-, hne⟩ | ⟨hr', -⟩
    · exact absurd (hrid'.trans hid) hne
    · exact htrack r' hr'

/-- An execution that is begun is at the start of the track of its job. -/
private theorem Progressing.begun {engine₀ : Engine} {act : Act}
    {job : String} {i : Int} {parameters : Dict}
    (hp : engine.Progressing) (hn : engine.Numbered)
    (ho : Opens engine act engine₀ job i parameters steps) :
    (engine₀.begin job i parameters steps now).2.Progressing := by
  obtain ⟨hex, hlast, -, -, hruns, hdefs⟩ := ho.same
  have hsame : ∀ job', (engine₀.begin job i parameters steps
      now).2.definition? job' = engine.definition? job' := by
    intro job'
    unfold definition?
    rw [begin_eq, hdefs]
  intro x hx
  rcases mem_begin.1 hx with hx | rfl
  · rw [hex] at hx
    obtain ⟨d, hd, hhead, hdriven⟩ := hp x hx
    refine ⟨d, (hsame _).trans hd, hhead, ?_⟩
    intro r hr hid
    rcases mem_runners_begin.1 hr with hr | ⟨-, rfl⟩
    · exact hdriven r (hruns ▸ hr) hid
    · have hle := hn.executions_le x hx
      have hid : engine₀.lastExecution + 1 = x.id := hid
      omega
  · obtain ⟨d, hd, rfl⟩ := ho.defined
    have htrack : OnTrack d.steps
        { execution := engine₀.lastExecution + 1, todo := d.steps
          phase := .starting }
        (newRecord (engine₀.lastExecution + 1) job i parameters now) :=
      ⟨rfl, List.forall_mem_nil _, [], [], rfl, List.forall_mem_nil _,
        rfl⟩
    refine ⟨d, (hsame _).trans hd, htrack.headway rfl, ?_⟩
    intro r hr hid
    rcases mem_runners_begin.1 hr with hr | ⟨-, rfl⟩
    · -- a runner from before drives an execution from before
      obtain ⟨y, hy, -⟩ := hn.known r (hruns ▸ hr)
      obtain ⟨hy, hyid⟩ := mem_of_execution? hy
      have hle := hn.executions_le y hy
      have hid : r.execution = engine₀.lastExecution + 1 := hid
      omega
    · exact htrack

/-- No effect sets an execution back or leads a runner off the track, as
long as executions are left to their runners. -/
theorem Effect.progressing (heff : Effect engine turn next)
    (hm : engine.Manned) (hrule : SelfDriven engine turn)
    (hp : engine.Progressing) : next.Progressing := by
  cases heff with
  | quiet => exact hp
  | wasted => exact hp
  | called he hc =>
      obtain ⟨-, rfl, -⟩ :=
        hc.asked (mem_of_execution? he).1 hm.steered hrule
      exact hp.marked he
  | moved _ he hr hmove => exact hp.moved hm.attended he hr hmove
  | begun ho => exact hp.begun hm.attended.numbered ho

-- ================================================================= the plays

/-- As long as executions are left to their runners, every execution shows
at the end of a play how far its runner has come with the steps of its
job. -/
theorem headway_simulated {definitions : List JobDefinition} {pace : Nat}
    {turns : List Turn}
    (hf : Follows SelfDriven (fresh definitions (some pace)) turns) :
    ∀ x ∈ (simulated definitions pace turns).executions,
      ∃ d, (fresh definitions (some pace)).definition? x.job = some d
        ∧ x.Headway d.steps := by
  have hall := play_keeps
    (P := fun engine => engine.Manned ∧ engine.Progressing)
    (fun engine turn h hrule => ⟨h.1.take hrule,
      (h.1.attended.numbered.effect turn).progressing h.1 hrule h.2⟩)
    ⟨⟨attended_fresh definitions (some pace),
      steered_fresh definitions pace⟩, fun _ h => nomatch h⟩ hf
  intro x hx
  obtain ⟨d, hd, hhead, -⟩ := hall.2 x hx
  unfold definition? at hd
  rw [definitions_play] at hd
  exact ⟨d, hd, hhead⟩

/-- A job of two steps. -/
def copying : List JobDefinition :=
  [{ name := "copy", steps := ["read", "write"] }]

/-- It is launched and stopped when its first step was got through, and
then it is restarted and stopped at its first chunk. -/
def stoppedTwice : List Turn :=
  ⟨.launch "copy" .empty, 0, 0⟩ :: List.replicate 22 ⟨.run 1, 1, 0⟩
    ++ ⟨.stop 1, 2, 0⟩ :: List.replicate 3 ⟨.run 1, 3, 0⟩
    ++ ⟨.restart 1, 4, 0⟩ :: List.replicate 3 ⟨.run 2, 5, 0⟩
    ++ ⟨.stop 2, 6, 0⟩ :: List.replicate 2 ⟨.run 2, 7, 0⟩

/-- Each execution shows how far it had come, and the first one does not
even show a chunk of the step that it was about to start. -/
theorem stoppedTwice_headway :
    Follows SelfDriven (fresh copying (some 1000)) stoppedTwice
      ∧ (simulated copying 1000 stoppedTwice).executions.map (fun x =>
            (x.status, x.steps.map fun s =>
              (s.name, s.status, s.commitCount)))
          = [(.stopped, [("read", .completed, 10), ("write", .stopped, 0)]),
              (.stopped, [("read", .stopped, 1)])]
      ∧ ∀ x ∈ (simulated copying 1000 stoppedTwice).executions,
          ∃ d, (fresh copying (some 1000)).definition? x.job = some d
            ∧ x.Headway d.steps := by
  have hf : Follows SelfDriven (fresh copying (some 1000))
      stoppedTwice := by decide
  exact ⟨hf, by decide +kernel, headway_simulated hf⟩

end Engine

end BatchAdmin
