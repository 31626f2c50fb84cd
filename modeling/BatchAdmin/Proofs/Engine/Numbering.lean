/-
Ids in the engine: handed out once, in rising order, and referred to only
where there is something under them.

`Numbered` is the invariant that every look-up by id silently relies on.
The ids of executions and of instances rise along their lists and stay
at or below their counters, so that the next id is new; so do the step
ids of each execution. Every execution belongs to an instance of its job
with its parameters. No two runners drive one execution, and each drives
one that is there, at a step that is there.

It holds in an engine that has run nothing and no turn breaks it,
whatever callers do: `numbered_play`. Records are only ever changed in
place or added at the end, so the two lemmas that carry the turn are the
ones about a change (`Numbered.revise`) and about a new execution
(`Numbered.begin`).
-/
import BatchAdmin.Proofs.Engine.Admission
import BatchAdmin.Proofs.Engine.Effects

namespace BatchAdmin.Engine

variable {engine : Engine} {e : Execution} {now : Instant}

-- ============================================================ the invariant

/-- Ids rise, stay below their counters and lead somewhere. -/
structure Numbered (engine : Engine) : Prop where
  executions : (engine.executions.map (·.id)).Pairwise (· < ·)
  executions_le : ∀ e ∈ engine.executions, e.id ≤ engine.lastExecution
  instances : (engine.instances.map (·.id)).Pairwise (· < ·)
  instances_le : ∀ i ∈ engine.instances, i.id ≤ engine.lastInstance
  belongs : ∀ e ∈ engine.executions, ∃ i ∈ engine.instances,
    e.instanceId = some i.id ∧ i.job = e.job ∧ i.identifying = e.parameters
  steps : ∀ e ∈ engine.executions, (e.steps.map (·.id)).Pairwise (· < ·)
  steps_le : ∀ e ∈ engine.executions, ∀ s ∈ e.steps,
    s.id ≤ engine.lastStep
  runners : (engine.runners.map (·.execution)).Nodup
  known : ∀ r ∈ engine.runners, engine.Known r

/-- Rising ids are told apart. -/
theorem nodup_of_rising {ids : List Int}
    (h : ids.Pairwise (· < ·)) : ids.Nodup :=
  h.imp fun hlt heq => absurd (heq ▸ hlt) (Int.lt_irrefl _)

/-- An execution is what its id finds. -/
theorem Numbered.find (hn : engine.Numbered)
    (he : e ∈ engine.executions) : engine.execution? e.id = some e :=
  execution?_of_mem (nodup_of_rising hn.executions) he

/-- Two executions with one id are one. -/
theorem Numbered.eq_of_id_eq (hn : engine.Numbered) {x y : Execution}
    (hx : x ∈ engine.executions) (hy : y ∈ engine.executions)
    (hid : x.id = y.id) : x = y := by
  have hfx := hn.find hx
  rw [hid, hn.find hy] at hfx
  injection hfx with h
  exact h.symm

/-- A choice of the executions whose ids are all one is of one at most. -/
theorem Numbered.length_le_one (hn : engine.Numbered)
    {xs : List Execution} (hs : xs.Sublist engine.executions)
    (heq : ∀ x ∈ xs, ∀ y ∈ xs, x.id = y.id) : xs.length ≤ 1 := by
  have hrising : xs.Pairwise fun x y => x.id < y.id :=
    (List.pairwise_map.1 hn.executions).sublist hs
  match xs, heq, hrising with
  | [], _, _ => exact Nat.zero_le _
  | [x], _, _ => exact Nat.le_refl _
  | x :: y :: rest, heq, hrising =>
      have hlt := (List.pairwise_cons.1 hrising).1 y List.mem_cons_self
      have hid := heq x List.mem_cons_self y
        (List.mem_cons_of_mem _ List.mem_cons_self)
      omega

/-- A runner is what its execution finds. -/
theorem Numbered.findRunner (hn : engine.Numbered) {r : Runner}
    (hr : r ∈ engine.runners) : engine.runner? r.execution = some r := by
  cases hf : engine.runner? r.execution with
  | none =>
      have hno := List.find?_eq_none.1 hf r hr
      simp at hno
  | some r' =>
      obtain ⟨hr', hid⟩ := mem_of_runner? hf
      rw [List.inj_on_of_nodup_map hn.runners hr' hr hid]

/-- An engine that has run nothing is numbered. -/
theorem numbered_fresh (definitions : List JobDefinition)
    (pace : Option Nat) : (fresh definitions pace).Numbered where
  executions := .nil
  executions_le := fun _ h => nomatch h
  instances := .nil
  instances_le := fun _ h => nomatch h
  belongs := fun _ h => nomatch h
  steps := fun _ h => nomatch h
  steps_le := fun _ h => nomatch h
  runners := .nil
  known := fun _ h => nomatch h

-- ================================================================= a change

/-- What a change refers to is there, and the id it brings is the next
one. -/
def Change.Fits (engine : Engine) (e : Execution) : Change → Prop
  | .openStep id _ => id = engine.lastStep + 1
  | .chunk step _ | .closeStep step _ => step ∈ e.steps
  | .mark | .close _ _ => True

theorem Calls.fits {act : Act} {change : Change}
    (hc : Calls engine e act change) : change.Fits engine e := by
  cases hc with
  | stopDriven _ _ => trivial
  | stopFree _ _ => trivial
  | startStep _ => rfl
  | recordChunk _ hs => exact (mem_of_step? hs).1
  | finishStep _ hs => exact (mem_of_step? hs).1
  | finish _ _ => trivial

theorem Moves.fits {r : Runner} {change : Change} {left : Option Runner}
    (hm : Moves engine now e r (some change) left) :
    change.Fits engine e := by
  cases hm with
  | endStopped _ _ _ => trivial
  | endCompleted _ _ _ => trivial
  | openStep _ _ => rfl
  | chunk _ hs _ => exact (mem_of_step? hs).1
  | lastChunk _ hs _ => exact (mem_of_step? hs).1
  | closeStep _ hs => exact (mem_of_step? hs).1
  | halt _ => trivial

/-- The step id that a change adds. -/
def Change.newStep : Change → List Int
  | .openStep id _ => [id]
  | _ => []

/-- The ids of an execution's steps after a change. -/
theorem stepIds_on (e : Execution) (change : Change) (now : Instant) :
    (change.on e now).steps.map (·.id)
      = e.steps.map (·.id) ++ change.newStep := by
  cases change with
  | mark => exact (List.append_nil _).symm
  | openStep id name => exact List.map_append
  | chunk step items =>
      exact (stepIds_putStep _).trans (List.append_nil _).symm
  | closeStep step status =>
      exact (stepIds_putStep _).trans (List.append_nil _).symm
  | close status exit =>
      show (e.steps.map _).map _ = _
      rw [List.map_map]
      refine (List.map_congr_left fun s _ => ?_).trans
        (List.append_nil _).symm
      by_cases hs : s.status.isRunning = true
      · simp [hs, ended]
      · simp [hs]

/-- A step is found exactly under the ids of the steps. -/
theorem step?_isSome {id : Int} :
    (e.step? id).isSome ↔ id ∈ e.steps.map (·.id) := by
  unfold Execution.step?
  rw [List.find?_isSome, List.mem_map]
  simp only [beq_iff_eq]

/-- Steps stay. -/
theorem step?_isSome_on {id : Int} (change : Change)
    (h : (e.step? id).isSome) : ((change.on e now).step? id).isSome := by
  rw [step?_isSome] at h ⊢
  rw [stepIds_on]
  exact List.mem_append_left _ h

/-- A change to one execution leaves what is found under another id. -/
theorem execution?_revise_of_ne {change : Change} {id : Int}
    (hid : id ≠ e.id) :
    (engine.revise e change now).execution? id = engine.execution? id :=
  execution?_put_of_ne (by rwa [Change.on_id])

/-- A runner's execution and step stay. -/
theorem Known.revise {change : Change} {r : Runner}
    (hk : engine.Known r) (he : engine.execution? e.id = some e) :
    (engine.revise e change now).Known r := by
  obtain ⟨x, hx, hsteps⟩ := hk
  by_cases hid : r.execution = e.id
  · rw [hid, he] at hx
    injection hx with hx
    subst hx
    refine ⟨change.on e now, ?_, fun step hs => ?_⟩
    · rw [hid]
      exact execution?_revise he
    · exact step?_isSome_on change (hsteps step hs)
  · refine ⟨x, ?_, hsteps⟩
    rw [execution?_revise_of_ne hid]
    exact hx

/-- The step counter never falls. -/
theorem Change.Fits.lastStep_le {change : Change}
    (hf : change.Fits engine e) :
    engine.lastStep ≤ change.lastStep engine.lastStep := by
  cases change with
  | openStep id name =>
      have hid : id = engine.lastStep + 1 := hf
      show engine.lastStep ≤ id
      omega
  | _ => exact Int.le_refl _

/-- The step id that a change adds is the next one. -/
theorem Change.Fits.newStep {change : Change}
    (hf : change.Fits engine e) {id : Int} (hid : id ∈ change.newStep) :
    id = engine.lastStep + 1
      ∧ change.lastStep engine.lastStep = engine.lastStep + 1 := by
  cases change with
  | openStep new name =>
      have hnew : new = engine.lastStep + 1 := hf
      have hid : id = new := List.mem_singleton.1 hid
      subst hid
      exact ⟨hnew, hnew⟩
  | _ => cases hid

/-- The ids of an execution's steps stay in order when it is changed. -/
private theorem rising_on {change : Change} (hn : engine.Numbered)
    (he : e ∈ engine.executions) (hf : change.Fits engine e) :
    ((change.on e now).steps.map (·.id)).Pairwise (· < ·) := by
  rw [stepIds_on, List.pairwise_append]
  refine ⟨hn.steps e he, ?_, ?_⟩
  · cases change with
    | openStep id name => exact List.pairwise_singleton _ _
    | _ => exact .nil
  · intro a ha b hb
    obtain ⟨s, hs, rfl⟩ := List.mem_map.1 ha
    have hle := hn.steps_le e he s hs
    have hnew := (hf.newStep hb).1
    omega

/-- The ids of an execution's steps stay below the counter when it is
changed. -/
private theorem le_on {change : Change} (hn : engine.Numbered)
    (he : e ∈ engine.executions) (hf : change.Fits engine e)
    {s : StepExecution} (hs : s ∈ (change.on e now).steps) :
    s.id ≤ change.lastStep engine.lastStep := by
  have hid : s.id ∈ (change.on e now).steps.map (·.id) :=
    List.mem_map_of_mem hs
  rw [stepIds_on, List.mem_append] at hid
  rcases hid with hid | hid
  · obtain ⟨s', hs', heq⟩ := List.mem_map.1 hid
    have hle := hn.steps_le e he s' hs'
    have hmono := hf.lastStep_le
    omega
  · obtain ⟨hnew, hlast⟩ := hf.newStep hid
    omega

/-- A change keeps the numbering. -/
theorem Numbered.revise {change : Change} (hn : engine.Numbered)
    (he : engine.execution? e.id = some e)
    (hf : change.Fits engine e) :
    (engine.revise e change now).Numbered := by
  have hmem := (mem_of_execution? he).1
  refine ⟨?_, ?_, hn.instances, hn.instances_le, ?_, ?_, ?_, hn.runners,
    fun r hr => (hn.known r hr).revise he⟩
  · rw [ids_revise]
    exact hn.executions
  · intro x hx
    rcases (mem_revise he).1 hx with ⟨hx, -⟩ | rfl
    · exact hn.executions_le x hx
    · rw [Change.on_id]
      exact hn.executions_le e hmem
  · intro x hx
    rcases (mem_revise he).1 hx with ⟨hx, -⟩ | rfl
    · exact hn.belongs x hx
    · obtain ⟨i, hi, hbel⟩ := hn.belongs e hmem
      exact ⟨i, hi, by simpa using hbel⟩
  · intro x hx
    rcases (mem_revise he).1 hx with ⟨hx, -⟩ | rfl
    · exact hn.steps x hx
    · exact rising_on hn hmem hf
  · intro x hx s hs
    rcases (mem_revise he).1 hx with ⟨hx, -⟩ | rfl
    · exact Int.le_trans (hn.steps_le x hx s hs) hf.lastStep_le
    · exact le_on hn hmem hf hs

-- ================================================================= a runner

/-- The runners after one was replaced by what is left of it. -/
theorem mem_keepRunner {id : Int} {left : Option Runner} {r : Runner} :
    r ∈ (engine.keepRunner id left).runners
      ↔ (r ∈ engine.runners ∧ r.execution ≠ id)
        ∨ (left = some r ∧ ∃ r₀ ∈ engine.runners, r₀.execution = id) := by
  show r ∈ engine.runners.flatMap _ ↔ _
  rw [List.mem_flatMap]
  constructor
  · rintro ⟨r₀, hr₀, hr⟩
    by_cases hid : r₀.execution = id
    · rw [if_pos hid] at hr
      exact .inr ⟨Option.mem_toList.1 hr, r₀, hr₀, hid⟩
    · rw [if_neg hid, List.mem_singleton] at hr
      subst hr
      exact .inl ⟨hr₀, hid⟩
  · rintro (⟨hr, hid⟩ | ⟨hleft, r₀, hr₀, hid⟩)
    · refine ⟨r, hr, ?_⟩
      rw [if_neg hid]
      exact List.mem_singleton_self r
    · refine ⟨r₀, hr₀, ?_⟩
      rw [if_pos hid]
      exact Option.mem_toList.2 hleft

/-- No execution gets a second runner when a runner is replaced. -/
private theorem runners_keepRunner {id : Int} {left : Option Runner}
    (hleft : ∀ r, left = some r → r.execution = id) :
    ((engine.keepRunner id left).runners.map (·.execution)).Sublist
      (engine.runners.map (·.execution)) := by
  show ((engine.runners.flatMap fun r =>
    if r.execution = id then left.toList else [r]).map _).Sublist _
  induction engine.runners with
  | nil => exact .slnil
  | cons r rest ih =>
      rw [List.flatMap_cons, List.map_append, List.map_cons]
      by_cases hid : r.execution = id
      · rw [if_pos hid]
        cases left with
        | none => exact ih.cons _
        | some r' =>
            show (r'.execution :: _).Sublist _
            rw [hleft r' rfl, hid]
            exact ih.cons_cons _
      · rw [if_neg hid]
        exact ih.cons_cons _

/-- What is left of a runner knows its execution and its step. -/
private theorem Moves.known {r r' : Runner} {change : Option Change}
    (hm : Moves engine now e r change (some r'))
    (he : engine.execution? e.id = some e) (hr : r.execution = e.id)
    (hk : engine.Known r) :
    (engine.reviseBy e now change).Known r' := by
  obtain ⟨x, hx, hsteps⟩ := hk
  rw [hr, he] at hx
  injection hx with hx
  subst hx
  have hr' : r'.execution = e.id := hm.execution.trans hr
  cases hm with
  | openStep hp ht =>
      refine ⟨_, hr' ▸ execution?_revise he, fun step hs => ?_⟩
      have hs : engine.lastStep + 1 = step := Option.some.inj hs
      subst hs
      rw [step?_isSome, stepIds_on]
      exact List.mem_append_right _ (List.mem_singleton_self _)
  | seeStop hp _ => exact ⟨e, hr' ▸ he, fun step hs => nomatch hs⟩
  | seeNone hp _ =>
      refine ⟨e, hr' ▸ he, fun step hs => hsteps step ?_⟩
      rw [hp]
      exact hs
  | chunk hp _ _ =>
      refine ⟨_, hr' ▸ execution?_revise he, fun step hs => ?_⟩
      refine step?_isSome_on _ (hsteps step ?_)
      rw [hp]
      exact hs
  | lastChunk hp _ _ =>
      refine ⟨_, hr' ▸ execution?_revise he, fun step hs => ?_⟩
      refine step?_isSome_on _ (hsteps step ?_)
      rw [hp]
      exact hs
  | closeStep hp _ =>
      exact ⟨_, hr' ▸ execution?_revise he, fun step hs => nomatch hs⟩

/-- A runner's move keeps the numbering. -/
theorem Numbered.moved {r : Runner} {change : Option Change}
    {left : Option Runner} (hn : engine.Numbered)
    (he : engine.execution? e.id = some e)
    (hr : engine.runner? e.id = some r)
    (hm : Moves engine now e r change left) :
    ((engine.reviseBy e now change).keepRunner e.id left).Numbered := by
  obtain ⟨hmem, hid⟩ := mem_of_runner? hr
  have hrev : (engine.reviseBy e now change).Numbered
      ∧ (engine.reviseBy e now change).runners = engine.runners := by
    cases change with
    | none => exact ⟨hn, rfl⟩
    | some change => exact ⟨hn.revise he hm.fits, rfl⟩
  obtain ⟨hrev, hsame⟩ := hrev
  refine { hrev with runners := ?_, known := ?_ }
  · refine List.Nodup.sublist (runners_keepRunner fun r' hleft => ?_)
      hrev.runners
    subst hleft
    exact hm.execution.trans hid
  · intro r' hr'
    rcases mem_keepRunner.1 hr' with ⟨hr', -⟩ | ⟨rfl, -⟩
    · exact hrev.known r' hr'
    · exact hm.known he hid (hn.known r hmem)

-- ========================================================== a new execution

/-- The record that a new execution starts with. -/
def newRecord (id : Int) (job : String) (i : Int) (parameters : Dict)
    (now : Instant) : Execution :=
  { id, job, instanceId := some i, parameters
    status := .started, startTime := some now, lastUpdated := some now }

/-- The engine after an execution was begun: the record at the end of the
others and, where runners are at work, a runner that answers for it. -/
theorem begin_eq (engine : Engine) (job : String) (i : Int)
    (parameters : Dict) (steps : List String) (now : Instant) :
    (engine.begin job i parameters steps now).2
      = { engine with
          lastExecution := engine.lastExecution + 1
          executions := engine.executions
            ++ [newRecord (engine.lastExecution + 1) job i parameters now]
          attached := engine.attached ++
            if engine.pace.isSome then [engine.lastExecution + 1] else []
          runners := engine.runners ++
            if engine.pace.isSome then
              [{ execution := engine.lastExecution + 1, todo := steps
                 phase := .starting }]
            else [] } := by
  unfold begin
  dsimp only
  split
  · rfl
  · simp only [List.append_nil]
    rfl

section Begin

variable {job : String} {i : Int} {parameters : Dict}
  {steps : List String}

/-- The executions after one was begun. -/
theorem mem_begin {x : Execution} :
    x ∈ (engine.begin job i parameters steps now).2.executions
      ↔ x ∈ engine.executions
        ∨ x = newRecord (engine.lastExecution + 1) job i parameters
            now := by
  rw [begin_eq]
  exact List.mem_append.trans (or_congr_right List.mem_singleton)

/-- The runners after an execution was begun. -/
theorem mem_runners_begin {r : Runner} :
    r ∈ (engine.begin job i parameters steps now).2.runners
      ↔ r ∈ engine.runners ∨ (engine.pace.isSome = true
        ∧ r = { execution := engine.lastExecution + 1, todo := steps
                phase := .starting }) := by
  rw [begin_eq]
  show r ∈ engine.runners ++ (if _ then _ else _) ↔ _
  rw [List.mem_append]
  refine or_congr_right ?_
  by_cases hp : engine.pace.isSome = true
  · rw [if_pos hp, List.mem_singleton]
    simp only [hp, true_and]
  · rw [if_neg hp]
    simp [hp]

/-- What was found before an execution was begun is still found. -/
theorem execution?_begin {id : Int} {x : Execution}
    (hx : engine.execution? id = some x) :
    (engine.begin job i parameters steps now).2.execution? id
      = some x := by
  rw [begin_eq]
  show (engine.executions ++ _).find? _ = _
  rw [List.find?_append]
  unfold execution? at hx
  rw [hx]
  rfl

/-- A new execution is found under the next id. -/
theorem execution?_begin_new (hn : engine.Numbered) :
    (engine.begin job i parameters steps now).2.execution?
        (engine.lastExecution + 1)
      = some (newRecord (engine.lastExecution + 1) job i parameters
          now) := by
  have hnone : engine.execution? (engine.lastExecution + 1) = none := by
    rw [execution?_eq_none]
    intro x hx hid
    have hle := hn.executions_le x hx
    omega
  rw [begin_eq]
  show (engine.executions ++ _).find? _ = _
  unfold execution? at hnone
  rw [List.find?_append, hnone]
  simp [newRecord]

/-- A new execution of an instance that is there keeps the numbering. -/
theorem Numbered.begin (hn : engine.Numbered)
    (hi : ∃ j ∈ engine.instances,
      j.id = i ∧ j.job = job ∧ j.identifying = parameters) :
    (engine.begin job i parameters steps now).2.Numbered where
  executions := by
    rw [begin_eq]
    show ((engine.executions ++ _).map _).Pairwise _
    rw [List.map_append, List.pairwise_append]
    refine ⟨hn.executions, List.pairwise_singleton _ _, ?_⟩
    intro a ha b hb
    obtain ⟨x, hx, rfl⟩ := List.mem_map.1 ha
    have hb : b = engine.lastExecution + 1 := List.mem_singleton.1 hb
    have hle := hn.executions_le x hx
    omega
  executions_le := by
    intro x hx
    have hlast : (engine.begin job i parameters steps now).2.lastExecution
        = engine.lastExecution + 1 := by rw [begin_eq]
    rw [hlast]
    rcases mem_begin.1 hx with hx | rfl
    · have hle := hn.executions_le x hx
      omega
    · exact Int.le_refl _
  instances := by
    rw [begin_eq]
    exact hn.instances
  instances_le := by
    rw [begin_eq]
    exact hn.instances_le
  belongs := by
    intro x hx
    have hsame : (engine.begin job i parameters steps now).2.instances
        = engine.instances := by rw [begin_eq]
    rw [hsame]
    rcases mem_begin.1 hx with hx | rfl
    · exact hn.belongs x hx
    · obtain ⟨j, hj, hid, hjob, hpar⟩ := hi
      exact ⟨j, hj, congrArg some hid.symm, hjob, hpar⟩
  steps := by
    intro x hx
    rcases mem_begin.1 hx with hx | rfl
    · exact hn.steps x hx
    · exact .nil
  steps_le := by
    intro x hx s hs
    have hsame : (engine.begin job i parameters steps now).2.lastStep
        = engine.lastStep := by rw [begin_eq]
    rw [hsame]
    rcases mem_begin.1 hx with hx | rfl
    · exact hn.steps_le x hx s hs
    · cases hs
  runners := by
    rw [begin_eq]
    show ((engine.runners ++ _).map _).Nodup
    rw [List.map_append, List.nodup_append]
    refine ⟨hn.runners, ?_, ?_⟩
    · split
      · exact List.nodup_singleton _
      · exact .nil
    · intro a ha b hb heq
      -- a runner at work drives an execution with an earlier id
      obtain ⟨r, hr, rfl⟩ := List.mem_map.1 ha
      obtain ⟨x, hx, -⟩ := hn.known r hr
      obtain ⟨hmem, hid⟩ := mem_of_execution? hx
      have hle := hn.executions_le x hmem
      have hb : b = engine.lastExecution + 1 := by
        split at hb
        · exact List.mem_singleton.1 hb
        · cases hb
      omega
  known := by
    intro r hr
    rcases mem_runners_begin.1 hr with hr | ⟨-, rfl⟩
    · obtain ⟨x, hx, hsteps⟩ := hn.known r hr
      exact ⟨x, execution?_begin hx, hsteps⟩
    · exact ⟨_, execution?_begin_new hn, fun step hs => nomatch hs⟩

end Begin

/-- A new instance keeps the numbering. -/
theorem Numbered.addInstance (hn : engine.Numbered) (job : String)
    (parameters : Dict) :
    (engine.addInstance job parameters).2.Numbered where
  executions := hn.executions
  executions_le := hn.executions_le
  instances := by
    show ((engine.instances ++ _).map _).Pairwise _
    rw [List.map_append, List.pairwise_append]
    refine ⟨hn.instances, List.pairwise_singleton _ _, ?_⟩
    intro a ha b hb
    obtain ⟨x, hx, rfl⟩ := List.mem_map.1 ha
    have hb : b = engine.lastInstance + 1 := List.mem_singleton.1 hb
    have hle := hn.instances_le x hx
    omega
  instances_le := by
    intro x hx
    show x.id ≤ engine.lastInstance + 1
    rcases List.mem_append.1 hx with hx | hx
    · have hle := hn.instances_le x hx
      omega
    · have hx := List.mem_singleton.1 hx
      subst hx
      exact Int.le_refl _
  belongs := by
    intro x hx
    obtain ⟨i, hi, hbel⟩ := hn.belongs x hx
    exact ⟨i, List.mem_append_left _ hi, hbel⟩
  steps := hn.steps
  steps_le := hn.steps_le
  runners := hn.runners
  known := hn.known

/-- The engine in which an execution is about to be begun is numbered
and has its instance. -/
theorem Opens.numbered {act : Act} {engine₀ : Engine} {job : String}
    {i : Int} {parameters : Dict} {steps : List String}
    (ho : Opens engine act engine₀ job i parameters steps)
    (hn : engine.Numbered) :
    engine₀.Numbered ∧ ∃ j ∈ engine₀.instances,
      j.id = i ∧ j.job = job ∧ j.identifying = parameters := by
  cases ho with
  | join _ hi _ =>
      obtain ⟨hmem, hjob, hpar⟩ := mem_of_instanceFor? hi
      exact ⟨hn, _, hmem, rfl, hjob, hpar⟩
  | found _ _ =>
      refine ⟨hn.addInstance _ _, _, List.mem_append_right _
        (List.mem_singleton_self _), rfl, rfl, rfl⟩
  | restart hr =>
      obtain ⟨he, hi, -⟩ := restartable_eq_ok.1 hr
      obtain ⟨j, hj, hid, hjob, hpar⟩ :=
        hn.belongs _ (mem_of_execution? he).1
      rw [hi] at hid
      exact ⟨hn, j, hj, (Option.some.inj hid).symm, hjob, hpar⟩

-- ================================================================== a play

/-- No effect breaks the numbering. -/
theorem Effect.numbered {turn : Turn} {next : Engine}
    (heff : Effect engine turn next) (hn : engine.Numbered) :
    next.Numbered := by
  cases heff with
  | quiet => exact hn
  | wasted =>
      refine { hn with steps_le := fun x hx s hs => ?_ }
      have hle := hn.steps_le x hx s hs
      show s.id ≤ engine.lastStep + 1
      omega
  | called he hc => exact hn.revise he hc.fits
  | moved _ he hr hm => exact hn.moved he hr hm
  | begun ho =>
      obtain ⟨hn₀, hi⟩ := ho.numbered hn
      exact hn₀.begin hi

/-- In a numbered engine a turn has one of the effects. -/
theorem Numbered.effect (hn : engine.Numbered) (turn : Turn) :
    Effect engine turn (engine.take turn) :=
  effect_take hn.known turn

/-- No turn breaks the numbering. -/
theorem Numbered.take (hn : engine.Numbered) (turn : Turn) :
    (engine.take turn).Numbered :=
  (hn.effect turn).numbered hn

/-- No play breaks the numbering. -/
theorem Numbered.play (hn : engine.Numbered) (turns : List Turn) :
    (engine.play turns).Numbered :=
  play_keeps (fun _ turn hn _ => hn.take turn) hn
    (follows_anything turns)

/-- Whatever is done to an engine that has run nothing, it stays
numbered. -/
theorem numbered_play (definitions : List JobDefinition)
    (pace : Option Nat) (turns : List Turn) :
    ((fresh definitions pace).play turns).Numbered :=
  (numbered_fresh definitions pace).play turns

end BatchAdmin.Engine
