/-
Runners: executions that drive themselves.

A runner goes through the steps of its execution. Each step takes ten
ticks of a tenth of the engine's pace; after each tick the runner looks
whether a stop was asked for, and if not records ten items. Between any
two of its moves others may act on the engine, so looking and recording
are moves of their own: a stop that comes between them is seen one tick
later, and one that comes after the last tick is seen when the execution
is closed.

A runner whose call on the engine fails gives up.
-/
import BatchAdmin.Engine.Steps

namespace BatchAdmin.Engine

-- ================================================================ the pace

/-- Ticks to a step. -/
def ticksPerStep : Nat := 10

/-- Items recorded at each tick. -/
def itemsPerTick : Nat := 10

/-- Milliseconds in a tick: a tenth of the pace, begun milliseconds
counting in full. -/
def tick (engine : Engine) : Nat :=
  (engine.pace.getD 0 + (ticksPerStep - 1)) / ticksPerStep

-- =============================================================== the moves

/-- A stop was asked for. -/
def stopAsked (engine : Engine) (execution : Int) : Answer Bool :=
  match engine.execution? execution with
  | none => .error (.noSuchExecution execution)
  | some e => .ok (e.status = .stopping)

/-- Closes an execution that got through all its steps; a stop asked for
in the meantime wins over completion. -/
def finishRun (engine : Engine) (execution : Int) (now : Instant) :
    Answer Execution × Engine :=
  match engine.stopAsked execution with
  | .error failure => (.error failure, engine)
  | .ok true => engine.finish execution .stopped .stopped now
  | .ok false => engine.finish execution .completed .completed now

/-- The runner may move: it is not waiting for a later moment. -/
def ready (runner : Runner) (now : Instant) : Bool :=
  match runner.phase with
  | .resting _ _ wake => decide (wake ≤ now)
  | _ => true

/-- One move of a runner; without a runner left it has come to its
end. -/
def move (engine : Engine) (runner : Runner) (now : Instant) :
    Option Runner × Engine :=
  let on (phase : Phase) : Option Runner := some { runner with phase }
  let rest := now.later engine.tick
  match runner.phase, runner.todo with
  | .starting, [] => (none, (engine.finishRun runner.execution now).2)
  | .starting, name :: todo =>
      match engine.startStep runner.execution name now with
      | (.error _, engine) => (none, engine)
      | (.ok step, engine) =>
          (some { runner with todo, phase := .resting step 0 rest }, engine)
  | .resting step ticks _, _ =>
      match engine.stopAsked runner.execution with
      | .error _ => (none, engine)
      | .ok true => (on .stopping, engine)
      | .ok false => (on (.recording step ticks), engine)
  | .recording step ticks, _ =>
      match engine.recordChunk runner.execution step itemsPerTick now with
      | (.error _, engine) => (none, engine)
      | (.ok (), engine) =>
          if ticks + 1 < ticksPerStep then
            (on (.resting step (ticks + 1) rest), engine)
          else (on (.closing step), engine)
  | .closing step, _ =>
      match engine.finishStep runner.execution step .completed now with
      | (.error _, engine) => (none, engine)
      | (.ok (), engine) => (on .starting, engine)
  | .stopping, _ =>
      (none, (engine.finish runner.execution .stopped .stopped now).2)

-- ====================================================== until they all rest

/-- More moves than a runner can still make. -/
def movesLeft (runner : Runner) : Nat :=
  let perStep := 2 * ticksPerStep + 2
  let now := match runner.phase with
    | .starting => 0
    | .resting _ ticks _ => 2 * (ticksPerStep - ticks) + 1
    | .recording _ ticks => 2 * (ticksPerStep - ticks)
    | .closing _ => 1
    | .stopping => 0
  perStep * runner.todo.length + now + 2

/-- Moves of one runner until it rests or ends, at most `fuel` of
them. -/
def settleOne : Nat → Engine → Runner → Instant → Option Runner × Engine
  | 0, engine, runner, _ => (some runner, engine)
  | fuel + 1, engine, runner, now =>
      if ready runner now then
        match engine.move runner now with
        | (none, engine) => (none, engine)
        | (some runner, engine) => settleOne fuel engine runner now
      else (some runner, engine)

/-- Every runner in turn moves until it rests or ends. -/
def settle (engine : Engine) (now : Instant) : Engine :=
  let (runners, engine) := engine.runners.foldl
    (fun (kept, engine) runner =>
      let (still, engine) :=
        settleOne (movesLeft runner) engine runner now
      (kept ++ still.toList, engine))
    (([] : List Runner), engine)
  { engine with runners }

/-- The engine after a number of milliseconds, the runners moving at
each of them; without a runner nothing moves. -/
def runFor (engine : Engine) : Nat → Instant → Engine
  | 0, _ => engine
  | ms + 1, now =>
      if engine.runners.isEmpty then engine
      else
        let now := now.later 1
        (engine.settle now).runFor ms now

end BatchAdmin.Engine
