/-
Plays: what any number of clients, workers and runners can do to the
engine, one turn after another.

Everything the engine offers is one step on its state under a lock, so a
concurrent history is a list of turns: who does what, at which moment. A
runner's move is a turn like any other (`run`), which is how all the ways
in which runners interleave with clients, and with each other, come in.
Neither the clock nor a runner's rest restrains a play: a turn may be
dated at will and a runner may move before its tick is up, so what holds
of every play holds of every schedule of the real clock. Where it matters
that the clock does not go back, that is asked for (`Onward`).

What callers promise is a rule, a condition on each turn in the state in
which it is taken (`Follows`). A state fact that no turn within the rule
breaks holds at the end of every play within the rule (`play_keeps`);
this is the one induction over plays that the invariants of this folder
stand on. `play_onward` is the like of it for facts that also tell what
time it is.
-/
import BatchAdmin.Engine.Control
import BatchAdmin.Engine.Runner

namespace BatchAdmin.Engine

-- ================================================================ the turns

/-- What can be done to the engine. -/
inductive Act where
  | launch (job : String) (parameters : Dict)
  | stop (execution : Int)
  | restart (execution : Int)
  | startStep (execution : Int) (name : String)
  | recordChunk (execution step : Int) (items : Nat)
  | finishStep (execution step : Int) (status : Status)
  | finish (execution : Int) (status : Status) (exit : ExitStatus)
  /-- The runner of the execution makes its next move. -/
  | run (execution : Int)

/-- Something done to the engine at a moment. -/
structure Turn where
  act : Act
  now : Instant

/-- The runner of an execution. -/
def runner? (engine : Engine) (execution : Int) : Option Runner :=
  engine.runners.find? fun r => r.execution == execution

/-- The engine with what is left of an execution's runner in the place of
the runner. -/
def keepRunner (engine : Engine) (execution : Int)
    (left : Option Runner) : Engine :=
  { engine with
    runners := engine.runners.flatMap fun r =>
      if r.execution = execution then left.toList else [r] }

/-- The engine after the next move of an execution's runner; without a
runner nothing happens. -/
def drive (engine : Engine) (execution : Int) (now : Instant) : Engine :=
  match engine.runner? execution with
  | none => engine
  | some runner =>
      let (left, engine) := engine.move runner now
      engine.keepRunner execution left

/-- The engine after a turn. -/
def take (engine : Engine) (turn : Turn) : Engine :=
  match turn.act with
  | .launch job parameters => (engine.launch job parameters turn.now).2
  | .stop id => (engine.stop id turn.now).2
  | .restart id => (engine.restart id turn.now).2
  | .startStep id name => (engine.startStep id name turn.now).2
  | .recordChunk id step items =>
      (engine.recordChunk id step items turn.now).2
  | .finishStep id step status =>
      (engine.finishStep id step status turn.now).2
  | .finish id status exit => (engine.finish id status exit turn.now).2
  | .run id => engine.drive id turn.now

-- ================================================================ the plays

/-- The engine after a list of turns. -/
def play (engine : Engine) : List Turn → Engine
  | [] => engine
  | turn :: rest => (engine.take turn).play rest

@[simp] theorem play_nil (engine : Engine) : engine.play [] = engine := rfl

@[simp] theorem play_cons (engine : Engine) (turn : Turn)
    (rest : List Turn) :
    engine.play (turn :: rest) = (engine.take turn).play rest := rfl

/-- A play may be cut anywhere. -/
theorem play_append (engine : Engine) (turns more : List Turn) :
    engine.play (turns ++ more) = (engine.play turns).play more := by
  induction turns generalizing engine with
  | nil => rfl
  | cons turn rest ih => exact ih (engine.take turn)

-- ================================================================ the rules

/-- What is promised of a turn in the state in which it is taken. -/
abbrev Rule := Engine → Turn → Prop

/-- Every turn of the play keeps to the rule. -/
def Follows (rule : Rule) : Engine → List Turn → Prop
  | _, [] => True
  | engine, turn :: rest =>
      rule engine turn ∧ Follows rule (engine.take turn) rest

instance (rule : Rule)
    [hd : ∀ engine turn, Decidable (rule engine turn)] :
    ∀ engine turns, Decidable (Follows rule engine turns)
  | _, [] => inferInstanceAs (Decidable True)
  | engine, turn :: rest =>
      have := instDecidableFollows rule (engine.take turn) rest
      inferInstanceAs (Decidable (_ ∧ _))

@[simp] theorem follows_nil (rule : Rule) (engine : Engine) :
    Follows rule engine [] := trivial

@[simp] theorem follows_cons {rule : Rule} {engine : Engine} {turn : Turn}
    {rest : List Turn} :
    Follows rule engine (turn :: rest)
      ↔ rule engine turn ∧ Follows rule (engine.take turn) rest := .rfl

variable {rule : Rule} {engine : Engine} {turns more : List Turn}

/-- A play keeps to a rule if what comes before a cut does and what comes
behind it does. -/
theorem follows_append :
    Follows rule engine (turns ++ more)
      ↔ Follows rule engine turns
        ∧ Follows rule (engine.play turns) more := by
  induction turns generalizing engine with
  | nil => simp
  | cons turn rest ih => simp [ih, and_assoc]

/-- A play keeps to a rule if each of its turns does in the state that
the turns before it lead to. -/
theorem follows_iff :
    Follows rule engine turns
      ↔ ∀ before turn after, turns = before ++ turn :: after →
          rule (engine.play before) turn := by
  constructor
  · rintro hf before turn after rfl
    exact (follows_append.1 hf).2.1
  · intro hall
    induction turns generalizing engine with
    | nil => trivial
    | cons turn rest ih =>
        refine ⟨hall [] turn rest rfl, ih ?_⟩
        intro before turn' after hrest
        exact hall (turn :: before) turn' after (by rw [hrest]; rfl)

/-- A play that keeps to each of two rules keeps to both at once. -/
theorem Follows.and {other : Rule} (hf : Follows rule engine turns)
    (ho : Follows other engine turns) :
    Follows (fun engine turn => rule engine turn ∧ other engine turn)
      engine turns := by
  induction turns generalizing engine with
  | nil => trivial
  | cons turn rest ih => exact ⟨⟨hf.1, ho.1⟩, ih hf.2 ho.2⟩

/-- What no turn within the rule breaks holds at the end of a play within
the rule. -/
theorem play_keeps {P : Engine → Prop}
    (hstep : ∀ engine turn, P engine → rule engine turn →
      P (engine.take turn))
    (hstart : P engine) (hf : Follows rule engine turns) :
    P (engine.play turns) := by
  induction turns generalizing engine with
  | nil => exact hstart
  | cons turn rest ih => exact ih (hstep _ _ hstart hf.1) hf.2

-- ================================================================ the clock

/-- From turn to turn the clock does not go back, and in the end it is
this moment. -/
def Onward (turns : List Turn) (now : Instant) : Prop :=
  (turns.map (·.now) ++ [now]).Pairwise (· ≤ ·)

instance (turns : List Turn) (now : Instant) :
    Decidable (Onward turns now) :=
  inferInstanceAs (Decidable (List.Pairwise _ _))

theorem onward_cons {now : Instant} {turn : Turn} {rest : List Turn} :
    Onward (turn :: rest) now
      ↔ ((∀ later ∈ rest, turn.now ≤ later.now) ∧ turn.now ≤ now)
        ∧ Onward rest now := by
  unfold Onward
  rw [List.map_cons, List.cons_append, List.pairwise_cons,
    List.forall_mem_append, List.forall_mem_map, List.forall_mem_singleton]

/-- A play that goes on from a moment on ends with what no turn breaks. -/
private theorem play_onward_from {P : Instant → Engine → Prop}
    (hstep : ∀ now engine turn, P now engine → rule engine turn →
      now ≤ turn.now → P turn.now (engine.take turn))
    (hlater : ∀ now later engine, P now engine → now ≤ later →
      P later engine)
    {start now : Instant} (hstart : P start engine)
    (hfirst : ∀ turn ∈ turns, start ≤ turn.now) (hlast : start ≤ now)
    (hf : Follows rule engine turns) (hc : Onward turns now) :
    P now (engine.play turns) := by
  induction turns generalizing engine start with
  | nil => exact hlater _ _ _ hstart hlast
  | cons turn rest ih =>
      obtain ⟨⟨hrest, hnow⟩, hc⟩ := onward_cons.1 hc
      exact ih
        (hstep _ _ _ hstart hf.1 (hfirst turn List.mem_cons_self))
        hrest hnow hf.2 hc

/-- What holds at any moment before the first turn, what no turn within the
rule breaks and what goes on to hold as time passes holds at the end of a
play within the rule, as long as the clock does not go back. -/
theorem play_onward {P : Instant → Engine → Prop}
    (hstep : ∀ now engine turn, P now engine → rule engine turn →
      now ≤ turn.now → P turn.now (engine.take turn))
    (hlater : ∀ now later engine, P now engine → now ≤ later →
      P later engine)
    {now : Instant} (hstart : ∀ start, P start engine)
    (hf : Follows rule engine turns) (hc : Onward turns now) :
    P now (engine.play turns) := by
  cases turns with
  | nil => exact hstart now
  | cons turn rest =>
      obtain ⟨⟨hrest, hnow⟩, -⟩ := onward_cons.1 hc
      refine play_onward_from hstep hlater (hstart turn.now) ?_ hnow hf hc
      intro other hother
      rcases List.mem_cons.1 hother with rfl | hother
      · exact Instant.le_refl _
      · exact hrest other hother

-- ============================================================ what runs

/-- There is such an execution, and it runs. -/
def runs (engine : Engine) (id : Int) : Bool :=
  (engine.execution? id).any Execution.isRunning

/-- What runs under an id is what is found under it. -/
theorem runs_eq_true {id : Int} :
    engine.runs id = true
      ↔ ∃ e, engine.execution? id = some e ∧ e.isRunning = true := by
  unfold runs
  cases engine.execution? id with
  | none => simp
  | some e => simp

/-- Whatever turns are taken. -/
def anything : Rule := fun _ _ => True

theorem follows_anything (turns : List Turn) :
    Follows anything engine turns := by
  induction turns generalizing engine with
  | nil => trivial
  | cons turn rest ih => exact ⟨trivial, ih⟩

end BatchAdmin.Engine
