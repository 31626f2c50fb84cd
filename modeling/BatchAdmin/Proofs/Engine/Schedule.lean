/-
The schedule that is run is one of the plays.

`settle` lets every runner in turn move until it rests or ends, and
`runFor` does so at every millisecond. Neither goes through `take`:
moves are made on an engine whose list of runners stands still, and the
runners that are left are written back in the end. What the invariants of
this folder say about plays holds for them all the same, since each comes
to a play in which only runners take turns (`settle_eq_play`,
`runFor_eq_play`).

A move neither reads nor writes the list of runners
(`move_withRunners`), so the list may as well be kept up to date move by
move: beside the engine that `settle` works on, the proof carries the
list with the runners done so far, the one at work and those to come.
-/
import BatchAdmin.Proofs.Engine.Numbering

namespace BatchAdmin.Engine

variable {engine : Engine} {now : Instant}

-- ============================================================ other runners

/-- The engine with other runners. -/
def withRunners (engine : Engine) (runners : List Runner) : Engine :=
  { engine with runners }

theorem execution?_withRunners (runners : List Runner) (id : Int) :
    (engine.withRunners runners).execution? id = engine.execution? id := rfl

theorem reported_withRunners (runners : List Runner) (id step : Int) :
    (engine.withRunners runners).reported id step
      = engine.reported id step := rfl

/-- Starting a step has nothing to do with the runners. -/
private theorem startStep_withRunners (runners : List Runner) (id : Int)
    (name : String) :
    (engine.withRunners runners).startStep id name now
      = ((engine.startStep id name now).1,
          (engine.startStep id name now).2.withRunners runners) := by
  cases he : engine.execution? id with
  | none =>
      have he' : (engine.withRunners runners).execution? id = none := he
      rw [startStep_none he, startStep_none he']
      rfl
  | some e =>
      have he' : (engine.withRunners runners).execution? id = some e := he
      rw [startStep_eq he, startStep_eq he']
      rfl

/-- A move has nothing to do with the other runners. -/
theorem move_withRunners (runners : List Runner) (r : Runner)
    (now : Instant) :
    (engine.withRunners runners).move r now
      = ((engine.move r now).1,
          (engine.move r now).2.withRunners runners) := by
  cases hp : r.phase with
  | starting =>
      cases ht : r.todo with
      | nil =>
          simp only [move, hp, ht, finishRun, stopAsked, finish,
            execution?_withRunners]
          cases engine.execution? r.execution with
          | none => rfl
          | some e =>
              dsimp only
              cases decide (e.status = .stopping) <;> rfl
      | cons name todo =>
          simp only [move, hp, ht, startStep_withRunners]
          cases hs : engine.startStep r.execution name now with
          | mk answer engine' => cases answer <;> rfl
  | resting step ticks wake =>
      simp only [move, hp, stopAsked, execution?_withRunners]
      cases engine.execution? r.execution with
      | none => rfl
      | some e =>
          dsimp only
          cases decide (e.status = .stopping) <;> rfl
  | recording step ticks =>
      simp only [move, hp, recordChunk, reported_withRunners]
      cases engine.reported r.execution step with
      | error failure => rfl
      | ok found =>
          dsimp only
          by_cases hlast : ticks + 1 < ticksPerStep
          · simp only [if_pos hlast]
            rfl
          · simp only [if_neg hlast]
            rfl
  | closing step =>
      simp only [move, hp, finishStep, reported_withRunners]
      cases engine.reported r.execution step with
      | error failure => rfl
      | ok found => rfl
  | stopping =>
      simp only [move, hp, finish, execution?_withRunners]
      cases engine.execution? r.execution <;> rfl

-- ============================================================= one runner

/-- Replacing a runner leaves runners of other executions alone. -/
private theorem flatMap_others {id : Int} {left : Option Runner}
    {runners : List Runner} (h : ∀ r ∈ runners, r.execution ≠ id) :
    (runners.flatMap fun r =>
        if r.execution = id then left.toList else [r]) = runners := by
  induction runners with
  | nil => rfl
  | cons r rest ih =>
      obtain ⟨hr, hrest⟩ := List.forall_mem_cons.1 h
      rw [List.flatMap_cons, if_neg hr, ih hrest]
      rfl

section OneRunner

variable {kept rest : List Runner} {r : Runner}

/-- A runner's turn is its move, and what is left of it comes to stand in
its place. -/
theorem take_run (now : Instant)
    (hn : (engine.withRunners (kept ++ r :: rest)).Numbered) :
    (engine.withRunners (kept ++ r :: rest)).take ⟨.run r.execution, now⟩
      = (engine.move r now).2.withRunners
          (kept ++ (engine.move r now).1.toList ++ rest) := by
  have hmem : r ∈ (engine.withRunners (kept ++ r :: rest)).runners :=
    List.mem_append_right _ List.mem_cons_self
  have hnodup : ((kept ++ r :: rest).map (·.execution)).Nodup := hn.runners
  rw [List.map_append, List.map_cons, List.nodup_append,
    List.nodup_cons] at hnodup
  obtain ⟨-, ⟨hrest, -⟩, hkept⟩ := hnodup
  have hk : ∀ k ∈ kept, k.execution ≠ r.execution := fun k hk =>
    hkept _ (List.mem_map_of_mem hk) _ List.mem_cons_self
  have hr : ∀ k ∈ rest, k.execution ≠ r.execution := fun k hk heq =>
    hrest (heq ▸ List.mem_map_of_mem hk)
  show (engine.withRunners (kept ++ r :: rest)).drive r.execution now = _
  unfold drive
  rw [hn.findRunner hmem]
  simp only [move_withRunners]
  unfold keepRunner withRunners
  simp only [List.flatMap_append, List.flatMap_cons, if_true,
    flatMap_others hk, flatMap_others hr, List.append_assoc]

/-- What a move leaves of a runner is a runner of the same execution. -/
private theorem execution_move {r' : Runner} (hk : engine.Known r)
    (h : (engine.move r now).1 = some r') : r'.execution = r.execution := by
  obtain ⟨e, he, hsteps⟩ := hk
  obtain ⟨change, left, hm, hmove⟩ := move_eq now he hsteps
  rw [hmove] at h
  have h : left = some r' := h
  subst h
  exact hm.execution

/-- The moves of a runner until it rests or ends are turns of it. -/
private theorem settleOne_eq_play (fuel : Nat)
    (hn : (engine.withRunners (kept ++ r :: rest)).Numbered) :
    ∃ n, (engine.withRunners (kept ++ r :: rest)).play
          (List.replicate n ⟨.run r.execution, now⟩)
        = (settleOne fuel engine r now).2.withRunners
            (kept ++ (settleOne fuel engine r now).1.toList ++ rest) := by
  induction fuel generalizing engine r with
  | zero => exact ⟨0, by simp [settleOne]⟩
  | succ fuel ih =>
      by_cases hready : ready r now = true
      case neg => exact ⟨0, by simp [settleOne, hready]⟩
      case pos =>
        have hmem : r ∈ (engine.withRunners (kept ++ r :: rest)).runners :=
          List.mem_append_right _ List.mem_cons_self
        have htake := take_run now hn
        have hn' := hn.take ⟨.run r.execution, now⟩
        cases hmove : engine.move r now with
        | mk left engine' =>
        rw [hmove] at htake
        rw [htake] at hn'
        cases left with
        | none =>
            refine ⟨1, ?_⟩
            simp only [settleOne, hready, if_true, hmove]
            exact htake
        | some r' =>
            have hid : r'.execution = r.execution := by
              have hk : engine.Known r := hn.known r hmem
              exact execution_move hk (congrArg Prod.fst hmove)
            have hn' : (engine'.withRunners
                (kept ++ r' :: rest)).Numbered := by
              simpa using hn'
            obtain ⟨n, hplay⟩ := ih hn'
            refine ⟨n + 1, ?_⟩
            simp only [settleOne, hready, if_true, hmove]
            rw [List.replicate_succ, play_cons, htake, ← hid, ← hplay]
            simp

end OneRunner

-- ============================================================ all of them

/-- Only runners take turns. -/
def RunnersOnly (turns : List Turn) : Prop :=
  ∀ turn ∈ turns, ∃ id, turn.act = .run id

theorem RunnersOnly.append {turns more : List Turn}
    (ht : RunnersOnly turns) (hm : RunnersOnly more) :
    RunnersOnly (turns ++ more) := by
  intro turn h
  rcases List.mem_append.1 h with h | h
  · exact ht turn h
  · exact hm turn h

/-- The runners done so far and the engine, with one more runner let
move until it rests or ends. -/
private def settleNext (now : Instant) (done : List Runner × Engine)
    (r : Runner) : List Runner × Engine :=
  (done.1 ++ (settleOne (movesLeft r) done.2 r now).1.toList,
    (settleOne (movesLeft r) done.2 r now).2)

/-- The runners to come are let move one after the other, those done
standing before them. -/
private theorem settle_rest (now : Instant) (todo : List Runner)
    {kept : List Runner}
    (hn : (engine.withRunners (kept ++ todo)).Numbered) :
    ∃ turns, RunnersOnly turns
      ∧ (engine.withRunners (kept ++ todo)).play turns
        = (todo.foldl (settleNext now) (kept, engine)).2.withRunners
            (todo.foldl (settleNext now) (kept, engine)).1 := by
  induction todo generalizing engine kept with
  | nil => exact ⟨[], nofun, by simp⟩
  | cons r rest ih =>
      obtain ⟨n, hplay⟩ := settleOne_eq_play (movesLeft r) hn
      have hn' := hn.play (List.replicate n ⟨.run r.execution, now⟩)
      rw [hplay] at hn'
      obtain ⟨turns, hruns, hrest⟩ := ih hn'
      refine ⟨List.replicate n ⟨.run r.execution, now⟩ ++ turns, ?_, ?_⟩
      · refine RunnersOnly.append (fun turn h => ⟨r.execution, ?_⟩) hruns
        rw [List.eq_of_mem_replicate h]
      · rw [play_append, hplay, hrest]
        rfl

/-- Letting all runners settle is a play in which only they take
turns. -/
theorem settle_eq_play (hn : engine.Numbered) (now : Instant) :
    ∃ turns, RunnersOnly turns ∧ engine.settle now = engine.play turns := by
  have hn : (engine.withRunners ([] ++ engine.runners)).Numbered := hn
  obtain ⟨turns, hruns, hplay⟩ := settle_rest now engine.runners hn
  exact ⟨turns, hruns, hplay.symm⟩

/-- Letting time pass is a play in which only runners take turns. -/
theorem runFor_eq_play (hn : engine.Numbered) (ms : Nat)
    (now : Instant) :
    ∃ turns, RunnersOnly turns
      ∧ engine.runFor ms now = engine.play turns := by
  induction ms generalizing engine now with
  | zero => exact ⟨[], nofun, rfl⟩
  | succ ms ih =>
      unfold runFor
      by_cases hidle : engine.runners.isEmpty = true
      · rw [if_pos hidle]
        exact ⟨[], nofun, rfl⟩
      · rw [if_neg hidle]
        obtain ⟨turns, hruns, hsettle⟩ := settle_eq_play hn (now.later 1)
        have hn' := hn.play turns
        rw [← hsettle] at hn'
        obtain ⟨more, hmore, hplay⟩ := ih hn' (now.later 1)
        refine ⟨turns ++ more, hruns.append hmore, ?_⟩
        rw [play_append, ← hsettle]
        exact hplay

end BatchAdmin.Engine
