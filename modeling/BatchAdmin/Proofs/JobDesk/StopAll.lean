/-
Stopping all that runs.

The job desk takes down what runs and then asks for one stop after another,
passing over those that fail. By then the list is of the past: each stop
changes the engine that the next one finds. What makes it right all the same
is that a stop changes one record and nothing else (`stop_eq_put`), so that
what is taken down later is found as it was. `stopEach_eq` is the induction
over the list, and `stopAll_halts` says what all of it comes to: every
execution that ran is halted but for those that cannot be stopped, the answer
is their number, and the rest of the engine is as it was.
-/
import BatchAdmin.JobDesk.Control
import BatchAdmin.Proofs.Engine.Lineage

namespace BatchAdmin

namespace Engine

variable {engine next : Engine} {e : Execution} {now : Instant} {turn : Turn}

-- =============================================================== one is halted

/-- An execution that is asked to stop while it runs. One that a runner
answers for is left to the runner. Any other is stopped, and with it the
steps that still run in it; those that have ended stay as they are. -/
def halted (engine : Engine) (now : Instant) (e : Execution) : Execution :=
  if e.id ∈ engine.attached then
    { e with status := .stopping, lastUpdated := some now }
  else
    { e with
      status := .stopped, exit := some .stopped, endTime := some now
      lastUpdated := some now
      steps := e.steps.map fun s =>
        if s.status.isRunning then
          { s with
            status := .stopped, endTime := some now, lastUpdated := some now }
        else s }

@[simp] theorem halted_id : (engine.halted now e).id = e.id := by
  unfold halted
  split <;> rfl

/-- A stop of what runs halts it and does nothing else. -/
theorem stop_eq_put {id : Int} (he : engine.execution? id = some e)
    (hr : e.isRunning = true) :
    (engine.stop id now).2 = engine.put (engine.halted now e) := by
  obtain rfl : e.id = id := (mem_of_execution? he).2
  unfold halted
  by_cases ha : e.id ∈ engine.attached
  · rw [stop_eq_mark he hr ha, if_pos ha]
    rfl
  · rw [stop_eq_close he hr ha, if_neg ha]
    -- none of those that a runner answers for is taken off
    have hsame : engine.attached.filter (· ≠ e.id) = engine.attached := by
      rw [List.filter_eq_self]
      intro id hid
      rw [decide_eq_true_eq]
      rintro rfl
      exact ha hid
    show { engine.put _ with
      attached := engine.attached.filter (· ≠ e.id)
      lastStep := engine.lastStep } = _
    rw [hsame]
    rfl

/-- A stop of what is there does not fail. -/
theorem stop_isOk {id : Int} (he : engine.execution? id = some e)
    (now : Instant) :
    ∃ x, (engine.stop id now).1 = .ok x := by
  obtain rfl : e.id = id := (mem_of_execution? he).2
  unfold stop
  rw [he]
  dsimp only
  split
  · exact ⟨_, rfl⟩
  · split
    · exact ⟨_, rfl⟩
    · have hmarked : (engine.put (Change.mark.on e now)).execution? e.id
          = some (Change.mark.on e now) := execution?_put_self he
      exact ⟨_, congrArg Prod.fst (finish_eq hmarked .stopped .stopped)⟩

-- ============================================================ many are halted

/-- The engine with every chosen execution halted. -/
def haltAll (engine : Engine) (now : Instant) (chosen : Execution → Bool) :
    Engine :=
  { engine with
    executions := engine.executions.map fun e =>
      if chosen e then engine.halted now e else e }

/-- Only what is chosen among the engine's own matters. -/
theorem haltAll_congr {p q : Execution → Bool}
    (h : ∀ e ∈ engine.executions, p e = q e) :
    engine.haltAll now p = engine.haltAll now q := by
  unfold haltAll
  congr 1
  refine List.map_congr_left fun e he => ?_
  rw [h e he]

/-- Where nothing is chosen nothing is halted. -/
theorem haltAll_none (engine : Engine) (now : Instant) :
    engine.haltAll now (fun _ => false) = engine := by
  unfold haltAll
  simp

/-- To halt one and others after it is to halt them all at once. -/
theorem haltAll_put {q : Int → Bool}
    (hu : (engine.executions.map (·.id)).Nodup)
    (he : e ∈ engine.executions) (hq : q e.id = false) :
    (engine.put (engine.halted now e)).haltAll now (fun x => q x.id)
      = engine.haltAll now fun x => x.id == e.id || q x.id := by
  unfold haltAll put
  simp only [List.map_map, halted_id]
  congr 1
  refine List.map_congr_left fun x hx => ?_
  by_cases hid : x.id = e.id
  · -- the one under this id is halted already and not chosen again
    obtain rfl : x = e := List.inj_on_of_nodup_map hu hx he hid
    simp [hq]
  · simp [hid]
    rfl

-- ============================================================= without runners

/-- Nothing is answered for after a change where nothing was before. -/
theorem Change.attached_nil (change : Change) (id : Int) :
    change.attached id [] = [] := by
  cases change <;> rfl

/-- In an engine without runners nothing is ever answered for. -/
theorem Effect.unmanned (heff : Effect engine turn next)
    (hp : engine.pace = none) (ha : engine.attached = []) :
    next.attached = [] := by
  cases heff with
  | quiet => exact ha
  | wasted => exact ha
  | @called e change _ _ =>
      show change.attached e.id engine.attached = []
      rw [ha, Change.attached_nil]
  | @moved e r change left _ _ _ _ =>
      cases change with
      | none => exact ha
      | some change =>
          show change.attached e.id engine.attached = []
          rw [ha, Change.attached_nil]
  | begun ho =>
      obtain ⟨-, -, hpace, hatt, -⟩ := ho.same
      rw [begin_eq, hatt, hpace, ha, hp]
      rfl

/-- So it is at the end of every play. -/
theorem attached_play (definitions : List JobDefinition)
    (turns : List Turn) :
    ((fresh definitions none).play turns).attached = [] := by
  refine (play_keeps (P := fun engine => engine.Numbered
    ∧ engine.pace = none ∧ engine.attached = [])
    (fun engine turn h _ => ?_)
    ⟨numbered_fresh definitions none, rfl, rfl⟩
    (follows_anything turns)).2.2
  obtain ⟨hn, hp, ha⟩ := h
  exact ⟨hn.take turn, (hn.effect turn).setup.2.trans hp,
    (hn.effect turn).unmanned hp ha⟩

end Engine

namespace JobDesk

open Engine (Turn)

variable {engine : Engine} {stuck : Int → Bool} {now : Instant}

-- ================================================================ one by one

/-- What cannot be stopped is passed over. -/
theorem stopEach_stuck {id : Int} {rest : List Int}
    (hs : stuck id = true) :
    stopEach stuck now (id :: rest) engine
      = stopEach stuck now rest engine := by
  rw [stopEach, stopUnless, if_pos hs]

/-- What can be stopped is counted. -/
theorem stopEach_halts {id : Int} {rest : List Int} {e : Execution}
    (hs : stuck id = false) (he : engine.execution? id = some e)
    (hr : e.isRunning = true) :
    stopEach stuck now (id :: rest) engine
      = ((stopEach stuck now rest
            (engine.put (engine.halted now e))).1 + 1,
          (stopEach stuck now rest
            (engine.put (engine.halted now e))).2) := by
  obtain ⟨x, hx⟩ := Engine.stop_isOk he now
  have hstop : stopUnless stuck engine now id
      = (.ok x, engine.put (engine.halted now e)) := by
    unfold stopUnless
    rw [if_neg (by rw [hs]; exact Bool.false_ne_true)]
    exact Prod.ext hx (Engine.stop_eq_put he hr)
  rw [stopEach, hstop]

/-- Executions that run are stopped one after another: all but the stuck
ones are halted and counted. The induction is on the list; what is left of
it is found in the next engine as it was in this one, for it is of other
executions. -/
theorem stopEach_eq {ids : List Int}
    (hu : (engine.executions.map (·.id)).Nodup) (hids : ids.Nodup)
    (hrun : ∀ id ∈ ids, ∃ e,
      engine.execution? id = some e ∧ e.isRunning = true) :
    stopEach stuck now ids engine
      = ((ids.filter fun id => !stuck id).length,
          engine.haltAll now fun e => decide (e.id ∈ ids) && !stuck e.id) := by
  induction ids generalizing engine with
  | nil =>
      refine Prod.ext rfl ?_
      exact (Engine.haltAll_none engine now).symm
  | cons id rest ih =>
      obtain ⟨hnew, hrest⟩ := List.nodup_cons.1 hids
      cases hs : stuck id with
      | true =>
          have hleft := ih hu hrest fun id hid =>
            hrun id (List.mem_cons_of_mem _ hid)
          rw [stopEach_stuck hs, hleft]
          refine Prod.ext ?_ (Engine.haltAll_congr fun e _ => ?_)
          · simp [hs]
          · by_cases hid : e.id = id
            · simp [hid, hs]
            · simp [hid]
      | false =>
          obtain ⟨e, he, hr⟩ := hrun id List.mem_cons_self
          obtain ⟨hmem, rfl⟩ := Engine.mem_of_execution? he
          have hids : ((engine.put (engine.halted now e)).executions.map
              (·.id)).Nodup := by
            rw [Engine.ids_put]
            exact hu
          have hleft := ih hids hrest fun id hid => by
            rw [Engine.execution?_put_of_ne]
            · exact hrun id (List.mem_cons_of_mem _ hid)
            · rintro rfl
              rw [Engine.halted_id] at hid
              exact hnew hid
          rw [stopEach_halts hs he hr, hleft,
            Engine.haltAll_put (q := fun id => decide (id ∈ rest) && !stuck id)
              hu hmem (by simp [hnew])]
          refine Prod.ext ?_ (Engine.haltAll_congr fun x _ => ?_)
          · simp [hs]
          · by_cases hid : x.id = e.id
            · simp [hid, hs]
            · simp [hid]

-- ==================================================================== at once

/-- Where ids tell executions apart, those that run are halted and counted
but for the stuck ones. -/
theorem stopAll_eq (hn : engine.Numbered) :
    stopAll stuck engine now
      = ((engine.executions.filter
            fun e => e.isRunning && !stuck e.id).length,
          engine.haltAll now fun e => e.isRunning && !stuck e.id) := by
  have hu := Engine.nodup_of_rising hn.executions
  have hrunning : ∀ e, e ∈ engine.running
      ↔ e ∈ engine.executions ∧ e.isRunning = true := by
    intro e
    rw [Engine.running, Engine.newest, List.mem_filter, List.mem_reverse]
  have hids : (engine.running.map (·.id)).Nodup := by
    have hsub : (engine.running.map (·.id)).Sublist
        (engine.newest.map (·.id)) := List.filter_sublist.map _
    refine hsub.nodup ?_
    rw [Engine.newest, List.map_reverse, List.nodup_reverse]
    exact hu
  have hrun : ∀ id ∈ engine.running.map (·.id), ∃ e,
      engine.execution? id = some e ∧ e.isRunning = true := by
    intro id hid
    obtain ⟨e, he, rfl⟩ := List.mem_map.1 hid
    obtain ⟨hmem, hr⟩ := (hrunning e).1 he
    exact ⟨e, hn.find hmem, hr⟩
  rw [stopAll, stopEach_eq hu hids hrun]
  refine Prod.ext ?_ (Engine.haltAll_congr fun e he => ?_)
  · show (List.filter _ (List.map _ _)).length = _
    rw [List.filter_map, List.length_map, Engine.running, Engine.newest,
      List.filter_filter, List.filter_reverse, List.length_reverse]
    refine congrArg List.length (List.filter_congr fun e _ => ?_)
    exact Bool.and_comm _ _
  · -- its id is among those taken down exactly if it runs itself
    congr 1
    rw [Bool.eq_iff_iff, decide_eq_true_iff, List.mem_map]
    constructor
    · rintro ⟨x, hx, hid⟩
      obtain ⟨hmem, hr⟩ := (hrunning x).1 hx
      obtain rfl := hn.eq_of_id_eq hmem he hid
      exact hr
    · intro hr
      exact ⟨e, (hrunning e).2 ⟨he, hr⟩, rfl⟩

/-- Where nothing is stuck and nothing is answered for, nothing runs
afterwards. -/
theorem running_haltAll (ha : engine.attached = []) :
    (engine.haltAll now Execution.isRunning).running = [] := by
  rw [Engine.running, List.filter_eq_nil_iff]
  intro x hx
  obtain ⟨e, -, rfl⟩ := List.mem_map.1 (List.mem_reverse.1 hx)
  rw [Bool.not_eq_true]
  cases hr : e.isRunning with
  | true =>
      rw [if_pos rfl, Engine.halted, if_neg (by rw [ha]; exact List.not_mem_nil)]
      rfl
  | false => rw [if_neg Bool.false_ne_true, hr]

/-- Where nothing runs, stopping all does nothing. -/
theorem stopAll_of_quiet (h : engine.running = []) :
    stopAll stuck engine now = (0, engine) := by
  rw [stopAll, h]
  rfl

/-- **Stopping all halts what runs and counts it.** Whatever was done to the
engine before and whichever executions are stuck, all others that run are
halted, those that are stopping already among them, and their number is the
answer; nothing else in the engine changes. In an engine without runners and
with nothing stuck, nothing runs afterwards, and stopping all once more finds
nothing to do. -/
theorem stopAll_halts (definitions : List JobDefinition) (pace : Option Nat)
    (turns : List Turn) (stuck : Int → Bool) (now : Instant) :
    let engine := (Engine.fresh definitions pace).play turns
    let unmanned := (Engine.fresh definitions none).play turns
    let stopped := (stopAll (fun _ => false) unmanned now).2
    stopAll stuck engine now
        = ((engine.executions.filter
              fun e => e.isRunning && !stuck e.id).length,
            engine.haltAll now fun e => e.isRunning && !stuck e.id)
      ∧ stopped.running = []
      ∧ ∀ stuck later, stopAll stuck stopped later = (0, stopped) := by
  intro engine unmanned stopped
  have hstopped : stopped = unmanned.haltAll now Execution.isRunning := by
    show (stopAll _ unmanned now).2 = _
    rw [stopAll_eq (Engine.numbered_play definitions none turns)]
    exact Engine.haltAll_congr fun e _ => Bool.and_true _
  have hquiet : stopped.running = [] := by
    rw [hstopped]
    exact running_haltAll (Engine.attached_play definitions turns)
  exact ⟨stopAll_eq (Engine.numbered_play definitions pace turns), hquiet,
    fun stuck later => stopAll_of_quiet hquiet⟩

-- of three launched the second is over and the third is stuck
example :
    let launch : Turn := ⟨.launch "nightly" .empty, 0, 0⟩
    let engine := (Engine.fresh [{ name := "nightly", incrementable := true
                                   concurrent := true }] none).play
      [launch, launch, launch, ⟨.finish 2 .completed .completed, 1, 0⟩]
    let (count, next) := stopAll (· == 3) engine ⟨2, 0⟩
    count = 1 ∧ next.executions.map (fun e => (e.id, e.status))
        = [(1, .stopped), (2, .completed), (3, .started)] := by
  decide

end JobDesk

end BatchAdmin
