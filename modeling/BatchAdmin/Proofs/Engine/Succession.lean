/-
The executions of one instance follow one another.

An instance is run again only when the attempts before it have ended
without completing. So of all its executions only the newest can run or
have completed (`Succession`), and an instance that has completed is
never run again. `succession_play` says so for every play in which
executions are ended from outside only where no runner answers for them
(`Unattended`), for whatever jobs the engine knows.

Two things carry the step. An execution is begun only where no execution
of its instance holds the instance (`Opens.vacant`): joining and
restarting look for it, and an instance that is founded has an id that no
execution refers to yet. And an execution that does not hold its instance
never does again (`Makes.holds`), since only running executions change
their status.
-/
import BatchAdmin.Proofs.Engine.Attendance

namespace BatchAdmin

/-- The execution stands in the way of another one of its instance: it
runs, or it has completed. -/
def Execution.holds (e : Execution) : Bool :=
  e.isRunning || e.status = .completed

namespace Engine

variable {engine next : Engine} {turn : Turn}

-- ============================================================ the invariant

/-- Only the newest execution of an instance holds it. -/
def Succession (engine : Engine) : Prop :=
  ∀ x ∈ engine.executions, ∀ y ∈ engine.executions,
    x.instanceId = y.instanceId → x.id < y.id → x.holds = false

/-- Without executions there is nothing to hold. -/
theorem succession_fresh (definitions : List JobDefinition)
    (pace : Option Nat) : (fresh definitions pace).Succession :=
  fun _ h => nomatch h

/-- What neither runs nor has completed does not hold. -/
private theorem holds_eq_false {e : Execution} :
    e.holds = false ↔ e.isRunning = false ∧ e.status ≠ .completed := by
  unfold Execution.holds
  rw [Bool.or_eq_false_iff, decide_eq_false_iff_not]

/-- An execution is begun only where none holds its instance. -/
theorem Opens.vacant {act : Act} {engine₀ : Engine} {job : String}
    {i : Int} {parameters : Dict} {steps : List String}
    (ho : Opens engine act engine₀ job i parameters steps)
    (hn : engine.Numbered) {e : Execution} (he : e ∈ engine.attemptsOf i) :
    e.holds = false := by
  cases ho with
  | join _ _ hu => exact holds_eq_false.2 (unfinished_eq_ok.1 hu e he)
  | restart hr =>
      obtain ⟨-, -, -, -, -, hu⟩ := restartable_eq_ok.1 hr
      exact holds_eq_false.2 (unfinished_eq_ok.1 hu e he)
  | found _ _ =>
      -- no execution refers to the id that the new instance gets
      obtain ⟨hmem, hi⟩ := mem_attemptsOf.1 he
      obtain ⟨j, hj, hid, -⟩ := hn.belongs e hmem
      have hle := hn.instances_le j hj
      rw [hi] at hid
      have hid : engine.lastInstance + 1 = j.id := Option.some.inj hid
      omega

/-- What does not hold its instance never does again. -/
theorem Makes.holds {e : Execution} {change : Change}
    (hm : Makes engine turn e change) (he : e ∈ engine.executions)
    (hn : engine.Numbered) (hd : engine.Driving)
    (hrule : Unattended engine turn)
    (hh : (change.on e turn.now).holds = true) : e.holds = true := by
  unfold Execution.holds Execution.isRunning at hh ⊢
  rw [Change.on_status] at hh
  by_cases hs : change.status e.status = e.status
  · rw [hs] at hh
    exact hh
  · have hrun := hm.running_of_status_ne he hn hd hrule hs
    unfold Execution.isRunning at hrun
    rw [hrun]
    rfl

/-- No effect within the rule lets an older execution of an instance hold
it. -/
theorem Effect.succession (heff : Effect engine turn next)
    (hn : engine.Numbered) (hd : engine.Driving)
    (hrule : Unattended engine turn) (hs : engine.Succession) :
    next.Succession := by
  intro x hx y hy hinst hlt
  -- the older of the two was there before: the new id is above all others
  have hold : ∃ x₀ ∈ engine.executions, x₀.id = x.id
      ∧ x₀.instanceId = x.instanceId
      ∧ (x.holds = true → x₀.holds = true) := by
    cases heff.origin hx with
    | kept hx => exact ⟨x, hx, rfl, rfl, id⟩
    | @changed e change he hm hxe =>
        subst hxe
        exact ⟨e, he, (Change.on_id ..).symm,
          (Change.on_instanceId ..).symm, hm.holds he hn hd hrule⟩
    | begun ho hxe =>
        have hle := (heff.origin hy).id_le hn
        subst hxe
        have hlt : engine.lastExecution + 1 < y.id := hlt
        omega
  obtain ⟨x₀, hx₀, hid, hinst₀, hback⟩ := hold
  have hfree : x₀.holds = false := by
    cases heff.origin hy with
    | kept hy => exact hs x₀ hx₀ y hy (hinst₀.trans hinst) (by omega)
    | @changed e change he _ hye =>
        subst hye
        rw [Change.on_instanceId] at hinst
        rw [Change.on_id] at hlt
        exact hs x₀ hx₀ e he (hinst₀.trans hinst) (by omega)
    | begun ho hye =>
        subst hye
        exact ho.vacant hn (mem_attemptsOf.2 ⟨hx₀, hinst₀.trans hinst⟩)
  cases hx : x.holds with
  | false => rfl
  | true =>
      rw [hback hx] at hfree
      cases hfree

-- ======================================================= what has completed

/-- The instance has been run to completion. -/
def Complete (engine : Engine) (i : Int) : Prop :=
  ∃ x ∈ engine.attemptsOf i, x.status = .completed

/-- An instance that has completed remains so, and no execution is added
to it. -/
theorem Effect.complete (heff : Effect engine turn next)
    (ha : engine.Attended) (hrule : Unattended engine turn) {i : Int}
    (hc : engine.Complete i) :
    next.Complete i
      ∧ ∀ y ∈ next.attemptsOf i, ∃ x ∈ engine.attemptsOf i,
          x.id = y.id := by
  obtain ⟨x, hx, hdone⟩ := hc
  obtain ⟨hmem, hi⟩ := mem_attemptsOf.1 hx
  constructor
  · have hended : x.isRunning = false := by
      unfold Execution.isRunning
      rw [hdone]
      rfl
    obtain ⟨x', hx', -, hi', hs'⟩ :=
      heff.ended_keeps ha.numbered ha.driving hrule hmem hended
    exact ⟨x', mem_attemptsOf.2 ⟨hx', hi'.trans hi⟩, hs'.trans hdone⟩
  · intro y hy
    obtain ⟨hy, hyi⟩ := mem_attemptsOf.1 hy
    cases heff.origin hy with
    | kept hy => exact ⟨y, mem_attemptsOf.2 ⟨hy, hyi⟩, rfl⟩
    | @changed e change he _ hye =>
        subst hye
        rw [Change.on_instanceId] at hyi
        exact ⟨e, mem_attemptsOf.2 ⟨he, hyi⟩, (Change.on_id ..).symm⟩
    | @begun engine₀ job i' parameters steps ho hye =>
        subst hye
        have hii : i' = i := Option.some.inj hyi
        subst hii
        have hfree := (holds_eq_false.1 (ho.vacant ha.numbered hx)).2
        exact absurd hdone hfree

-- ================================================================= the plays

/-- No execution is ever added to an instance that has completed. -/
theorem Complete.play {turns : List Turn} {i : Int}
    (hc : engine.Complete i) (ha : engine.Attended)
    (hf : Follows Unattended engine turns) :
    ∀ y ∈ (engine.play turns).attemptsOf i, ∃ x ∈ engine.attemptsOf i,
      x.id = y.id := by
  induction turns generalizing engine with
  | nil => exact fun y hy => ⟨y, hy, rfl⟩
  | cons turn rest ih =>
      obtain ⟨hc', hback⟩ :=
        (ha.numbered.effect turn).complete ha hf.1 hc
      intro z hz
      obtain ⟨y, hy, hyz⟩ := ih hc' (ha.take hf.1) hf.2 z hz
      obtain ⟨x, hx, hxy⟩ := hback y hy
      exact ⟨x, hx, hxy.trans hyz⟩

/-- Of the executions of an instance only the newest runs or has
completed, so that at most one does either; and once one has completed,
whatever follows adds no execution to the instance. -/
theorem succession_play {definitions : List JobDefinition}
    {pace : Option Nat} {turns : List Turn}
    (hf : Follows Unattended (fresh definitions pace) turns) (i : Int) :
    (∀ x ∈ ((fresh definitions pace).play turns).attemptsOf i,
        x.isRunning = true ∨ x.status = .completed →
        ∀ y ∈ ((fresh definitions pace).play turns).attemptsOf i,
          y.id ≤ x.id)
      ∧ ((((fresh definitions pace).play turns).attemptsOf i).filter
          fun x => x.isRunning || x.status = .completed).length ≤ 1
      ∧ (((fresh definitions pace).play turns).Complete i →
          ∀ more, Follows Unattended ((fresh definitions pace).play turns)
              more →
            ∀ y ∈ ((fresh definitions pace).play
                (turns ++ more)).attemptsOf i,
              ∃ x ∈ ((fresh definitions pace).play turns).attemptsOf i,
                x.id = y.id) := by
  have hinv : ((fresh definitions pace).play turns).Attended
      ∧ ((fresh definitions pace).play turns).Succession :=
    play_keeps (P := fun engine => engine.Attended ∧ engine.Succession)
      (fun engine turn h hrule => ⟨h.1.take hrule,
        (h.1.numbered.effect turn).succession h.1.numbered h.1.driving
          hrule h.2⟩)
      ⟨attended_fresh definitions pace, succession_fresh definitions pace⟩
      hf
  obtain ⟨ha, hs⟩ := hinv
  -- an execution that holds the instance has no newer one beside it
  have hnewest : ∀ x ∈ ((fresh definitions pace).play turns).attemptsOf i,
      x.holds = true →
      ∀ y ∈ ((fresh definitions pace).play turns).attemptsOf i,
        y.id ≤ x.id := by
    intro x hx hh y hy
    obtain ⟨hx, hxi⟩ := mem_attemptsOf.1 hx
    obtain ⟨hy, hyi⟩ := mem_attemptsOf.1 hy
    apply Int.not_lt.1
    intro hlt
    rw [hs x hx y hy (hxi.trans hyi.symm) hlt] at hh
    cases hh
  refine ⟨?_, ?_, ?_⟩
  · intro x hx hh
    refine hnewest x hx ?_
    unfold Execution.holds
    rw [Bool.or_eq_true, decide_eq_true_eq]
    exact hh
  · refine ha.numbered.length_le_one
      (List.filter_sublist.trans List.filter_sublist) ?_
    intro x hx y hy
    obtain ⟨hx, hhx⟩ := List.mem_filter.1 hx
    obtain ⟨hy, hhy⟩ := List.mem_filter.1 hy
    have hxy := hnewest x hx hhx y hy
    have hyx := hnewest y hy hhy x hx
    omega
  · intro hc more hmore
    rw [play_append]
    exact hc.play ha hmore

/-- An engine with runners that knows one job, without steps. -/
def loading : Engine := fresh [{ name := "load" }] (some 1000)

/-- The job is stopped, restarted and completed. -/
def secondTry : List Turn :=
  [⟨.launch "load" .empty, 0, 0⟩, ⟨.stop 1, 1, 0⟩, ⟨.run 1, 2, 0⟩,
    ⟨.restart 1, 3, 0⟩, ⟨.run 2, 4, 0⟩]

/-- It is launched with the same parameters, and restarted where it was
stopped. -/
def thirdTry : List Turn :=
  [⟨.launch "load" .empty, 5, 0⟩, ⟨.restart 1, 6, 0⟩]

/-- The completed second execution is the newest of its instance, and a
third try leaves it at that. -/
theorem thirdTry_refused :
    Follows Unattended loading secondTry
      ∧ ((loading.play secondTry).attemptsOf 1).map
          (fun x => (x.id, x.status)) = [(1, .stopped), (2, .completed)]
      ∧ Follows Unattended (loading.play secondTry) thirdTry
      ∧ ∀ y ∈ (loading.play (secondTry ++ thirdTry)).attemptsOf 1,
          ∃ x ∈ (loading.play secondTry).attemptsOf 1, x.id = y.id := by
  refine ⟨by decide, by decide, by decide, ?_⟩
  have hf : Follows Unattended loading secondTry := by decide
  refine (succession_play hf 1).2.2 ?_ thirdTry (by decide)
  unfold Complete
  decide

end Engine

end BatchAdmin
