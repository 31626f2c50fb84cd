/-
The run numbers of a job whose launches are numbered.

Nothing counts the launches of a job. The number of the next one is read off
the executions on record: it is one more than the largest run number that an
execution of the job carries among its parameters, in writing. That this is a
count (`launches_numbered`) rests on what is on record after so many launches
(`Enumerated`): every execution carries a number up to that one, some
execution carries that one, and no instance has a greater one.

Only a launch that goes ahead matters. Any other turn leaves the job with the
same choice of parameters among its executions (`Undisturbed`): executions
keep theirs, and a restart copies those of the execution it restarts. A
launch writes the next number over whatever its caller gave under that name,
and since no instance has it yet, it founds one.

Numbers are read back as signed words, so there is an end to the counting
there.
-/
import BatchAdmin.Proofs.Engine.Listing
import BatchAdmin.Proofs.Engine.Openings
import BatchAdmin.Proofs.Text.Numerals

namespace BatchAdmin.Engine

open Text

variable {engine next : Engine} {turn : Turn} {job : String}
  {d : JobDefinition} {k : Nat}

-- ================================================================ the numbers

/-- The run numbers that the executions of a job carry. -/
def runNumbers (engine : Engine) (job : String) : List Int :=
  (engine.executionsOf job).filterMap runNumber?

/-- The parameters carry a run number in writing. -/
def Carries (parameters : Dict) (n : Nat) : Prop :=
  parameters.get? runNumberKey = some (natText n)

/-- A run number that can be read is read. -/
theorem Carries.runNumber? {e : Execution} {n : Nat}
    (h : Carries e.parameters n) (hn : (n : Int) ≤ maxSigned) :
    Engine.runNumber? e = some (n : Int) := by
  unfold Engine.runNumber?
  rw [h, Option.bind_some, natText, String.toList_ofList]
  exact readInt64_writeNat hn

/-- Parameters carry one run number at most. -/
theorem Carries.unique {parameters : Dict} {m n : Nat}
    (hm : Carries parameters m) (hn : Carries parameters n) : m = n := by
  have htext : natText m = natText n := by
    unfold Carries at hm hn
    exact Option.some.inj (hm.symm.trans hn)
  have hwrite : writeNat m = writeNat n := String.ofList_injective htext
  have hread := readDigits_writeNat m
  rw [hwrite, readDigits_writeNat n] at hread
  exact (Option.some.inj hread).symm

/-- The next number is one more than the largest. -/
theorem nextRunNumber_of_max {n : Int} (hn : n ∈ engine.runNumbers job)
    (hle : ∀ m ∈ engine.runNumbers job, m ≤ n) :
    engine.nextRunNumber job = n + 1 := by
  have hmax : (engine.runNumbers job).max? = some n :=
    List.max?_eq_some_iff.2 ⟨hn, hle⟩
  show (engine.runNumbers job).max?.getD 0 + 1 = n + 1
  rw [hmax]
  rfl

/-- What has the same members has the same maximum. -/
private theorem max?_congr {xs ys : List Int}
    (h : ∀ n, n ∈ xs ↔ n ∈ ys) : xs.max? = ys.max? := by
  cases hx : xs.max? with
  | none =>
      have hxs := List.max?_eq_none_iff.1 hx
      have hys : ys = [] := by
        rw [List.eq_nil_iff_forall_not_mem]
        intro n hn
        rw [← h, hxs] at hn
        cases hn
      rw [hys]
      rfl
  | some n =>
      obtain ⟨hmem, hle⟩ := List.max?_eq_some_iff.1 hx
      refine (List.max?_eq_some_iff.2 ⟨(h n).1 hmem, fun m hm => ?_⟩).symm
      exact hle m ((h m).2 hm)

-- ================================================================ undisturbed

/-- The executions of the job have the parameters that those before had, and
the job has no new instance. -/
structure Undisturbed (engine next : Engine) (job : String) : Prop where
  back : ∀ x ∈ next.executionsOf job, ∃ e ∈ engine.executionsOf job,
    e.parameters = x.parameters
  forth : ∀ e ∈ engine.executionsOf job, ∃ x ∈ next.executionsOf job,
    x.parameters = e.parameters
  instances : ∀ i ∈ next.instances, i.job = job → i ∈ engine.instances

/-- The next launch is then numbered as before. -/
theorem Undisturbed.nextRunNumber (h : Undisturbed engine next job) :
    next.nextRunNumber job = engine.nextRunNumber job := by
  have hsame : ∀ n, n ∈ next.runNumbers job ↔ n ∈ engine.runNumbers job := by
    intro n
    unfold runNumbers
    rw [List.mem_filterMap, List.mem_filterMap]
    constructor
    · rintro ⟨x, hx, hnum⟩
      obtain ⟨e, he, hpar⟩ := h.back x hx
      refine ⟨e, he, ?_⟩
      rw [← hnum, runNumber?, runNumber?, hpar]
    · rintro ⟨e, he, hnum⟩
      obtain ⟨x, hx, hpar⟩ := h.forth e he
      refine ⟨x, hx, ?_⟩
      rw [← hnum, runNumber?, runNumber?, hpar]
  show (next.runNumbers job).max?.getD 0 + 1
    = (engine.runNumbers job).max?.getD 0 + 1
  rw [max?_congr hsame]

-- ================================================================ the launches

/-- How many launches of the job go ahead in a turn: one or none. -/
def launchesIn (job : String) (engine : Engine) (turn : Turn) : Nat :=
  match turn.act with
  | .launch other parameters =>
      if other = job ∧ (engine.launch other parameters turn.now).1.isOk then 1
      else 0
  | _ => 0

/-- How many launches of the job go ahead in a play. -/
def launched (job : String) : Engine → List Turn → Nat
  | _, [] => 0
  | engine, turn :: rest =>
      engine.launchesIn job turn + launched job (engine.take turn) rest

/-- A launch that opens an execution goes ahead. -/
theorem Opens.isOk {name : String} {given parameters : Dict}
    {engine₀ : Engine} {i : Int} {steps : List String} (now : Instant)
    (ho : Opens engine (.launch name given) engine₀ job i parameters
      steps) : (engine.launch name given now).1.isOk = true := by
  unfold launch
  cases ho with
  | join hd hi hu =>
      rw [hd]
      dsimp only
      rw [hi]
      dsimp only
      rw [hu]
      rfl
  | found hd hi =>
      rw [hd]
      dsimp only
      rw [hi]
      rfl

/-- Where no launch of the job goes ahead, what is opened for the job is a
restart of one of its executions. -/
theorem Opens.restarted {engine₀ : Engine} {i : Int} {parameters : Dict}
    {steps : List String}
    (ho : Opens engine turn.act engine₀ job i parameters steps)
    (hnone : engine.launchesIn job turn = 0) :
    engine₀ = engine
      ∧ ∃ e ∈ engine.executionsOf job, e.parameters = parameters := by
  obtain ⟨act, now⟩ := turn
  cases act with
  | launch name given =>
      obtain ⟨-, -, rfl, -⟩ := ho.launched
      have hone : engine.launchesIn job ⟨.launch job given, now⟩ = 1 :=
        if_pos ⟨rfl, ho.isOk now⟩
      rw [hone] at hnone
      cases hnone
  | restart id =>
      cases ho with
      | restart hr =>
          obtain ⟨he, -⟩ := restartable_eq_ok.1 hr
          exact ⟨rfl, _, mem_executionsOf.2
            ⟨(mem_of_execution? he).1, rfl⟩, rfl⟩
  | _ => cases ho

/-- Instances are only founded for the job. -/
theorem Opens.mem_instances {act : Act} {engine₀ : Engine} {i : Int}
    {parameters : Dict} {steps : List String}
    (ho : Opens engine act engine₀ job i parameters steps)
    {j : JobInstance} (hj : j ∈ engine₀.instances) :
    j ∈ engine.instances ∨ j.job = job := by
  cases ho with
  | join _ _ _ => exact .inl hj
  | found _ _ =>
      rcases List.mem_append.1 hj with hj | hj
      · exact .inl hj
      · rw [List.mem_singleton.1 hj]
        exact .inr rfl
  | restart _ => exact .inl hj

/-- A turn in which no launch of the job goes ahead does not disturb it. -/
theorem Effect.undisturbed (heff : Effect engine turn next)
    (hn : engine.Numbered) (hnone : engine.launchesIn job turn = 0) :
    Undisturbed engine next job := by
  refine ⟨?_, ?_, ?_⟩
  · intro x hx
    obtain ⟨hx, hjob⟩ := mem_executionsOf.1 hx
    cases heff.origin hx with
    | kept hx => exact ⟨x, mem_executionsOf.2 ⟨hx, hjob⟩, rfl⟩
    | @changed e change he _ hxe =>
        subst hxe
        rw [Change.on_job] at hjob
        exact ⟨e, mem_executionsOf.2 ⟨he, hjob⟩,
          (Change.on_parameters ..).symm⟩
    | begun ho hxe =>
        subst hxe
        obtain rfl : _ = job := hjob
        exact (ho.restarted hnone).2
  · intro e he
    obtain ⟨he, hjob⟩ := mem_executionsOf.1 he
    rcases heff.fate hn he with he | ⟨change, -, hmem⟩
    · exact ⟨e, mem_executionsOf.2 ⟨he, hjob⟩, rfl⟩
    · exact ⟨_, mem_executionsOf.2 ⟨hmem, (Change.on_job ..).trans hjob⟩,
        Change.on_parameters ..⟩
  · intro i hi hjob
    cases heff with
    | quiet => exact hi
    | wasted => exact hi
    | called _ _ => exact hi
    | @moved e r change left _ _ _ _ => cases change <;> exact hi
    | @begun engine₀ job' i' parameters steps ho =>
        rw [begin_eq] at hi
        rcases ho.mem_instances hi with hi' | hjob'
        · exact hi'
        · obtain rfl : job' = job := hjob'.symm.trans hjob
          obtain ⟨rfl, -⟩ := ho.restarted hnone
          exact hi

-- ================================================================= the count

/-- What is on record of a job after so many launches. -/
structure Enumerated (engine : Engine) (job : String) (k : Nat) : Prop where
  /-- Each execution carries the number of a launch. -/
  executions : ∀ e ∈ engine.executionsOf job,
    ∃ n, 0 < n ∧ n ≤ k ∧ Carries e.parameters n
  /-- One carries the number of the last launch. -/
  last : k = 0 ∨ ∃ e ∈ engine.executionsOf job, Carries e.parameters k
  /-- Each instance has the number of a launch. -/
  instances : ∀ i ∈ engine.instances, i.job = job →
    ∃ n, 0 < n ∧ n ≤ k ∧ Carries i.identifying n

/-- Nothing was launched in an engine that has run nothing. -/
theorem enumerated_fresh (definitions : List JobDefinition)
    (pace : Option Nat) (job : String) :
    (fresh definitions pace).Enumerated job 0 where
  executions := fun _ h => nomatch h
  last := .inl rfl
  instances := fun _ h => nomatch h

/-- The next launch has the next number. -/
theorem Enumerated.nextRunNumber (h : engine.Enumerated job k)
    (hk : (k : Int) ≤ maxSigned) :
    engine.nextRunNumber job = ((k + 1 : Nat) : Int) := by
  have hle : ∀ m ∈ engine.runNumbers job, m ≤ k := by
    intro m hm
    obtain ⟨e, he, hnum⟩ := List.mem_filterMap.1 hm
    obtain ⟨n, -, hn, hcarries⟩ := h.executions e he
    rw [hcarries.runNumber? (by omega)] at hnum
    obtain rfl : (n : Int) = m := Option.some.inj hnum
    omega
  rcases h.last with rfl | ⟨e, he, hcarries⟩
  · -- without a launch there is no execution to carry a number
    have hnone : engine.executionsOf job = [] := by
      rw [List.eq_nil_iff_forall_not_mem]
      intro e he
      obtain ⟨n, hpos, hn, -⟩ := h.executions e he
      omega
    unfold Engine.nextRunNumber
    rw [hnone]
    rfl
  · have hmem : (k : Int) ∈ engine.runNumbers job :=
      List.mem_filterMap.2 ⟨e, he, hcarries.runNumber? hk⟩
    rw [nextRunNumber_of_max hmem hle]
    rfl

/-- What does not disturb the job leaves the count. -/
theorem Enumerated.undisturbed (h : engine.Enumerated job k)
    (hu : Undisturbed engine next job) : next.Enumerated job k := by
  refine ⟨?_, ?_, fun i hi hjob => h.instances i (hu.instances i hi hjob) hjob⟩
  · intro x hx
    obtain ⟨e, he, hpar⟩ := hu.back x hx
    rw [← hpar]
    exact h.executions e he
  · refine h.last.imp_right ?_
    rintro ⟨e, he, hcarries⟩
    obtain ⟨x, hx, hpar⟩ := hu.forth e he
    exact ⟨x, hx, hpar ▸ hcarries⟩

section Launch

variable {parameters : Dict} {now : Instant} {e : Execution}
  (hd : engine.definition? job = some d) (hi : d.incrementable = true)
  (h : engine.Enumerated job k) (hk : (k : Int) ≤ maxSigned)

include hd hi h hk

/-- The next number is written over what the caller gave. -/
theorem Enumerated.effective :
    engine.effective d parameters
      = parameters.insert runNumberKey (natText (k + 1)) := by
  unfold Engine.effective
  rw [if_pos hi, (mem_of_definition? hd).2, h.nextRunNumber hk, intText,
    writeInt_natCast]
  rfl

/-- So no instance is found for a launch. -/
theorem Enumerated.instanceFor? :
    engine.instanceFor? job (engine.effective d parameters) = none := by
  rw [instanceFor?_eq_none]
  intro i hmem hjob hpar
  obtain ⟨n, -, hn, hcarries⟩ := h.instances i hmem hjob
  rw [hpar, h.effective hd hi hk] at hcarries
  have hsame := hcarries.unique (Dict.get?_insert_self ..)
  omega

/-- A launch that goes ahead founds an instance, for an execution with the
next number. -/
theorem Enumerated.launch (hn : engine.Numbered)
    (he : (engine.launch job parameters now).1 = .ok e) :
    e.job = job
      ∧ e.parameters = parameters.insert runNumberKey (natText (k + 1))
      ∧ (∃ steps, Added engine (engine.launch job parameters now).2 steps
          now e)
      ∧ Founded engine (engine.launch job parameters now).2 e := by
  obtain ⟨engine₀, _, i, _, steps, ho, rfl, hnext⟩ :=
    (launch_ends engine job parameters now).of_ok he
  have hadded := ho.added hn now
  obtain ⟨d', hd', rfl, rfl, -⟩ := ho.launched
  obtain rfl : d = d' := Option.some.inj (hd.symm.trans hd')
  rw [hnext]
  refine ⟨rfl, h.effective hd hi hk, ⟨steps, hadded⟩, ?_⟩
  refine (ho.placed hn).resolve_left fun hjoined => ?_
  obtain ⟨j, hj, hjob, hpar, -⟩ := hjoined.there
  exact instanceFor?_eq_none.1 (h.instanceFor? hd hi hk) j hj hjob hpar

/-- After it there is one more. -/
theorem Enumerated.launched (hn : engine.Numbered)
    (he : (engine.launch job parameters now).1 = .ok e) :
    (engine.launch job parameters now).2.Enumerated job (k + 1) := by
  obtain ⟨hjob, hpar, ⟨steps, hadded⟩, hfounded⟩ :=
    h.launch hd hi hk hn he
  have hcarries : Carries e.parameters (k + 1) := by
    rw [hpar]
    exact Dict.get?_insert_self ..
  refine ⟨?_, .inr ⟨e, ?_, hcarries⟩, ?_⟩
  · intro x hx
    obtain ⟨hx, hxjob⟩ := mem_executionsOf.1 hx
    rw [hadded.executions] at hx
    rcases List.mem_append.1 hx with hx | hx
    · obtain ⟨n, hpos, hle, hn⟩ :=
        h.executions x (mem_executionsOf.2 ⟨hx, hxjob⟩)
      exact ⟨n, hpos, by omega, hn⟩
    · rw [List.mem_singleton.1 hx]
      exact ⟨k + 1, by omega, by omega, hcarries⟩
  · rw [mem_executionsOf, hadded.executions]
    exact ⟨List.mem_append_right _ (List.mem_singleton_self e), hjob⟩
  · intro j hj hjob'
    rw [hfounded.instances] at hj
    rcases List.mem_append.1 hj with hj | hj
    · obtain ⟨n, hpos, hle, hn⟩ := h.instances j hj hjob'
      exact ⟨n, hpos, by omega, hn⟩
    · rw [List.mem_singleton.1 hj]
      exact ⟨k + 1, by omega, by omega, hcarries⟩

end Launch

/-- A turn counts the launches of the job that go ahead in it. -/
theorem Enumerated.take (h : engine.Enumerated job k)
    (hd : engine.definition? job = some d) (hi : d.incrementable = true)
    (hn : engine.Numbered) (hk : (k : Int) ≤ maxSigned) (turn : Turn) :
    (engine.take turn).Enumerated job (k + engine.launchesIn job turn) := by
  by_cases hnone : engine.launchesIn job turn = 0
  · rw [hnone]
    exact h.undisturbed ((hn.effect turn).undisturbed hn hnone)
  · obtain ⟨act, now⟩ := turn
    cases act with
    | launch name parameters =>
        have hgoes : name = job
            ∧ (engine.launch name parameters now).1.isOk = true := by
          apply Classical.byContradiction
          exact fun hno => hnone (if_neg hno)
        obtain ⟨rfl, hok⟩ := hgoes
        have hone : engine.launchesIn name ⟨.launch name parameters, now⟩
            = 1 := if_pos ⟨rfl, hok⟩
        rw [hone]
        cases he : (engine.launch name parameters now).1 with
        | error failure =>
            rw [he] at hok
            cases hok
        | ok e => exact h.launched hd hi hk hn he
    | _ => exact absurd rfl hnone

/-- So does a play. -/
theorem Enumerated.play (h : engine.Enumerated job k)
    (hd : engine.definition? job = some d) (hi : d.incrementable = true)
    (hn : engine.Numbered) (turns : List Turn)
    (hk : ((k + engine.launched job turns : Nat) : Int) ≤ maxSigned) :
    (engine.play turns).Enumerated job (k + engine.launched job turns) := by
  induction turns generalizing engine k with
  | nil => exact h
  | cons turn rest ih =>
      have hd' : (engine.take turn).definition? job = some d := by
        unfold definition? at hd ⊢
        rw [(hn.effect turn).setup.1]
        exact hd
      have hcount : k + engine.launched job (turn :: rest)
          = k + engine.launchesIn job turn
            + (engine.take turn).launched job rest :=
        (Nat.add_assoc ..).symm
      rw [hcount] at hk ⊢
      exact ih (h.take hd hi hn (by omega) turn) hd' (hn.take turn) hk

-- ================================================================== the plays

/-- What keeps a job from being launched is never that an instance has
completed. -/
private theorem launchable_ne_complete (parameters : Dict) (other : String) :
    engine.launchable job parameters ≠ .error (.instanceComplete other) := by
  unfold launchable
  split
  · exact nofun
  · split
    · exact nofun
    · split
      · exact nofun
      · split <;> exact nofun

/-- A job whose launches are numbered is never in the way of itself by an
instance that has completed. -/
theorem Enumerated.launch_ne_complete (h : engine.Enumerated job k)
    (hd : engine.definition? job = some d) (hi : d.incrementable = true)
    (hk : (k : Int) ≤ maxSigned) (parameters : Dict) (other : String)
    (now : Instant) :
    (engine.launch job parameters now).1
      ≠ .error (.instanceComplete other) := by
  unfold Engine.launch
  cases hl : engine.launchable job parameters with
  | error failure =>
      intro hanswer
      obtain rfl : failure = .instanceComplete other :=
        Except.error.inj hanswer
      exact launchable_ne_complete parameters other hl
  | ok d' =>
      obtain ⟨hd', -⟩ := launchable_eq_ok.1 hl
      obtain rfl : d = d' := Option.some.inj (hd.symm.trans hd')
      dsimp only
      rw [h.instanceFor? hd hi hk]
      exact nofun

/-- Whatever was done before, the `k`-th launch of the job that goes ahead
carries the number `k`, whatever its caller gave, and founds an instance; it
never fails because an instance has completed. A restart has the parameters
of the execution it retries, and leaves the next number as it is. -/
theorem launches_numbered {definitions : List JobDefinition}
    {pace : Option Nat} (turns : List Turn)
    (hd : (fresh definitions pace).definition? job = some d)
    (hi : d.incrementable = true)
    (hk : (((fresh definitions pace).launched job turns + 1 : Nat) : Int)
      ≤ maxSigned) (now : Instant) :
    let engine := (fresh definitions pace).play turns
    let k := (fresh definitions pace).launched job turns + 1
    engine.nextRunNumber job = k
      ∧ (∀ parameters e, (engine.launch job parameters now).1 = .ok e →
          e.job = job
            ∧ e.parameters = parameters.insert runNumberKey (natText k)
            ∧ Carries e.parameters k
            ∧ Founded engine (engine.launch job parameters now).2 e)
      ∧ (∀ parameters other, (engine.launch job parameters now).1
          ≠ .error (.instanceComplete other))
      ∧ ∀ id e, (engine.restart id now).1 = .ok e →
          ∃ x, engine.execution? id = some x
            ∧ Retried engine (engine.restart id now).2 x e
            ∧ (engine.restart id now).2.nextRunNumber job = k := by
  intro engine k
  have hn : engine.Numbered := numbered_play definitions pace turns
  have hk' : (((fresh definitions pace).launched job turns : Nat) : Int)
      ≤ maxSigned := by omega
  have h : engine.Enumerated job
      ((fresh definitions pace).launched job turns) := by
    have hplay := (enumerated_fresh definitions pace job).play hd hi
      (numbered_fresh definitions pace) turns (by simpa using hk')
    rwa [Nat.zero_add] at hplay
  have hd' : engine.definition? job = some d := by
    unfold definition?
    rw [definitions_play]
    exact hd
  have hnext : engine.nextRunNumber job = k := h.nextRunNumber hk'
  refine ⟨hnext, ?_, ?_, ?_⟩
  · intro parameters e he
    obtain ⟨hjob, hpar, -, hfounded⟩ := h.launch hd' hi hk' hn he
    refine ⟨hjob, hpar, ?_, hfounded⟩
    rw [hpar]
    exact Dict.get?_insert_self ..
  · intro parameters other
    exact h.launch_ne_complete hd' hi hk' parameters other now
  · intro id e he
    obtain ⟨engine₀, _, _, _, _, ho, rfl, hopened⟩ :=
      (restart_ends engine id now).of_ok he
    obtain ⟨x, -, hx, -, -, hretried⟩ := ho.retried now
    refine ⟨x, hx, hopened ▸ hretried, ?_⟩
    have hu : Undisturbed engine (engine.restart id now).2 job :=
      (hn.effect ⟨.restart id, now⟩).undisturbed hn rfl
    rw [hu.nextRunNumber]
    exact hnext

-- ------------------------------------------------------------ three reports

/-- A job whose launches are numbered and may overlap. -/
def reporting : Engine :=
  fresh [{ name := "report", incrementable := true, concurrent := true }]
    none

/-- It is launched with a number of the caller's own, stopped, restarted and
completed, and launched again. -/
def twoReports : List Turn :=
  [⟨.launch "report" (.ofList [("run.id", "7")]), 0, 0⟩, ⟨.stop 1, 1, 0⟩,
    ⟨.restart 1, 2, 0⟩, ⟨.finish 2 .completed .completed, 3, 0⟩,
    ⟨.launch "report" .empty, 4, 0⟩]

/-- The restart shares the number of the first launch, the second launch has
the next one, and a third one with the number of the first gets its own. -/
theorem thirdReport_numbered :
    (reporting.definition? "report").map (·.incrementable) = some true
      ∧ reporting.launched "report" twoReports = 2
      ∧ (reporting.play twoReports).executions.map
          (fun e => (e.id, e.parameters.get? "run.id"))
        = [(1, some "1"), (2, some "1"), (3, some "2")]
      ∧ ∃ e, ((reporting.play twoReports).launch "report"
            (.ofList [("run.id", "1")]) ⟨5, 0⟩).1 = .ok e
          ∧ e.parameters.get? "run.id" = some "3"
          ∧ Founded (reporting.play twoReports)
            ((reporting.play twoReports).launch "report"
              (.ofList [("run.id", "1")]) ⟨5, 0⟩).2 e := by
  have hcount : reporting.launched "report" twoReports = 2 := by decide
  refine ⟨by decide, hcount, by decide, ?_⟩
  have hok : ((reporting.play twoReports).launch "report"
      (.ofList [("run.id", "1")]) ⟨5, 0⟩).1.isOk = true := by decide
  cases he : ((reporting.play twoReports).launch "report"
      (.ofList [("run.id", "1")]) ⟨5, 0⟩).1 with
  | error failure =>
      rw [he] at hok
      cases hok
  | ok e =>
      have hd : reporting.definition? "report" = some
          { name := "report", incrementable := true, concurrent := true } :=
        rfl
      obtain ⟨-, hlaunch, -⟩ := launches_numbered twoReports hd
        rfl (by rw [← reporting, hcount]; decide) ⟨5, 0⟩
      obtain ⟨-, -, hcarries, hfounded⟩ := hlaunch _ e he
      rw [← reporting, hcount] at hcarries
      exact ⟨e, rfl, hcarries, hfounded⟩

end BatchAdmin.Engine
