/-
What a call that is refused leaves behind.

Every operation looks first and writes afterwards, so that a refused one
leaves the engine as it was, its counters included, with one exception: the
start of a step takes the next step id before it looks for the execution. A
start that is refused uses up that id.

Whoever comes later notices this only by the ids of the steps.
`refused_spares` says so of every play that goes on after a refusal, with
the refused call in it and without: the two are the same where the call was
not a start, and where it was they tell the same of the same engine but that
each step started since has an id one higher.
-/
import BatchAdmin.Proofs.Engine.Lineage
import BatchAdmin.Proofs.Engine.Openings
import BatchAdmin.Proofs.Engine.Renumbering

namespace BatchAdmin.Engine

-- =============================================================== the replies

/-- What is told of a turn that is not refused. -/
inductive Reply where
  /-- The execution that was launched, stopped, restarted or ended. -/
  | execution (e : Execution)
  /-- The id of the step that was started. -/
  | step (id : Int)
  | done

/-- A reply that speaks of steps under their new ids. -/
def Reply.renumber (last : Int) : Reply → Reply
  | .execution e => .execution (e.renumber last)
  | .step id => .step (shift last id)
  | .done => .done

/-- What is told of a turn, or why it is refused. -/
def reply (engine : Engine) (turn : Turn) : Answer Reply :=
  match turn.act with
  | .launch job parameters =>
      (engine.launch job parameters turn.now).1.map .execution
  | .stop id => (engine.stop id turn.now).1.map .execution
  | .restart id => (engine.restart id turn.now).1.map .execution
  | .startStep id name =>
      (engine.startStep id name turn.now).1.map .step
  | .recordChunk id step items =>
      (engine.recordChunk id step items turn.now).1.map fun _ => .done
  | .finishStep id step status =>
      (engine.finishStep id step status turn.now).1.map fun _ => .done
  | .finish id status exit =>
      (engine.finish id status exit turn.now).1.map .execution
  | .run _ => .ok .done

/-- What is told of the turns of a play, one after another. -/
def replies (engine : Engine) : List Turn → List (Answer Reply)
  | [] => []
  | turn :: rest => engine.reply turn :: (engine.take turn).replies rest

/-- What is refused has failed. -/
private theorem eq_error_of_map {α β : Type} {f : α → β}
    {answer : Answer α} {failure : Failure}
    (h : answer.map f = .error failure) : answer = .error failure := by
  cases answer with
  | error other => exact congrArg Except.error (Except.error.inj h)
  | ok a => cases h

-- ================================================================= a refusal

/-- A step is to be started. -/
def Act.starts : Act → Bool
  | .startStep _ _ => true
  | _ => false

/-- The engine with its next step id used up. -/
def skipStep (engine : Engine) : Engine :=
  { engine with lastStep := engine.lastStep + 1 }

section Refusals

variable {engine : Engine} {now : Instant} {failure : Failure} {id : Int}

/-- A start that fails uses up a step id. -/
theorem startStep_of_error {name : String}
    (h : (engine.startStep id name now).1 = .error failure) :
    (engine.startStep id name now).2 = engine.skipStep := by
  cases he : engine.execution? id with
  | none =>
      rw [startStep_none he]
      rfl
  | some e =>
      rw [startStep_eq he] at h
      cases h

theorem recordChunk_of_error {step : Int} {items : Nat}
    (h : (engine.recordChunk id step items now).1 = .error failure) :
    (engine.recordChunk id step items now).2 = engine := by
  rcases reported_cases engine id step with
    ⟨failure, hf⟩ | ⟨e, s, he, hs, -⟩
  · unfold recordChunk
    rw [hf]
  · rw [recordChunk_eq he hs] at h
    cases h

theorem finishStep_of_error {step : Int} {status : Status}
    (h : (engine.finishStep id step status now).1 = .error failure) :
    (engine.finishStep id step status now).2 = engine := by
  rcases reported_cases engine id step with
    ⟨failure, hf⟩ | ⟨e, s, he, hs, -⟩
  · unfold finishStep
    rw [hf]
  · rw [finishStep_eq he hs] at h
    cases h

/-- An end fails only where there is nothing to end. -/
private theorem execution?_of_finish {status : Status} {exit : ExitStatus}
    (h : (engine.finish id status exit now).1 = .error failure) :
    engine.execution? id = none := by
  cases he : engine.execution? id with
  | none => rfl
  | some e =>
      rw [finish_eq he] at h
      cases h

theorem finish_of_error {status : Status} {exit : ExitStatus}
    (h : (engine.finish id status exit now).1 = .error failure) :
    (engine.finish id status exit now).2 = engine := by
  unfold finish
  rw [execution?_of_finish h]

/-- A stop fails only where there is nothing to stop: what it marks is
there to be ended. -/
theorem stop_of_error (h : (engine.stop id now).1 = .error failure) :
    (engine.stop id now).2 = engine := by
  cases he : engine.execution? id with
  | none =>
      unfold stop
      rw [he]
  | some e =>
      obtain ⟨-, rfl⟩ := mem_of_execution? he
      have hmarked : (engine.put (Change.mark.on e now)).execution? e.id
          = some (Change.mark.on e now) := execution?_put_self he
      unfold stop at h
      simp only [he] at h
      split at h
      · cases h
      · split at h
        · cases h
        · cases hmarked.symm.trans (execution?_of_finish h)

variable {turn : Turn}

/-- A refused start uses up a step id; whatever else is refused changes
nothing. -/
theorem take_of_refused (h : engine.reply turn = .error failure) :
    engine.take turn
      = if turn.act.starts then engine.skipStep else engine := by
  obtain ⟨act, now⟩ := turn
  cases act with
  | launch job parameters =>
      exact (launch_ends engine job parameters now).of_error
        (eq_error_of_map h)
  | restart id =>
      exact (restart_ends engine id now).of_error (eq_error_of_map h)
  | stop id => exact stop_of_error (eq_error_of_map h)
  | startStep id name => exact startStep_of_error (eq_error_of_map h)
  | recordChunk id step items =>
      exact recordChunk_of_error (eq_error_of_map h)
  | finishStep id step status =>
      exact finishStep_of_error (eq_error_of_map h)
  | finish id status exit => exact finish_of_error (eq_error_of_map h)
  | run id => cases h

/-- An engine is not itself with an id used up. -/
theorem skipStep_ne : engine.skipStep ≠ engine := by
  intro h
  have hlast : engine.lastStep + 1 = engine.lastStep :=
    congrArg Engine.lastStep h
  omega

end Refusals

-- ============================================================== what follows

variable {engine next : Engine} {turn : Turn} {last : Int}

/-- Step ids are not given back. -/
theorem Effect.lastStep_le (heff : Effect engine turn next)
    (hn : engine.Numbered) : engine.lastStep ≤ next.lastStep := by
  cases heff with
  | quiet => exact Int.le_refl _
  | wasted =>
      show engine.lastStep ≤ engine.lastStep + 1
      omega
  | called he hc => exact hc.fits.lastStep_le
  | @moved e r change left ha he hr hm =>
      cases change with
      | none => exact Int.le_refl _
      | some change => exact hm.fits.lastStep_le
  | begun ho => exact Int.le_of_eq (ho.added hn _).lastStep.symm

/-- An operation that does the same up to the ids of steps is told of in the
same way. -/
private theorem renumbered_map {α : Type} {f : α → α} {tell : α → Reply}
    {with_ without : Answer α × Engine}
    (h : with_ = renumbered last f without)
    (htell : ∀ a, tell (f a) = (tell a).renumber last) :
    with_.1.map tell
        = Answer.renumber last (·.renumber last) (without.1.map tell)
      ∧ with_.2 = without.2.renumber last := by
  obtain ⟨answer, next⟩ := without
  subst h
  refine ⟨?_, rfl⟩
  cases answer with
  | error failure => rfl
  | ok a => exact congrArg Except.ok (htell a)

/-- A turn does the same to an engine with one more id used up, and the same
is told of it. -/
theorem turn_renumber (h : last ≤ engine.lastStep) (turn : Turn) :
    (engine.renumber last).reply (turn.renumber last)
        = Answer.renumber last (·.renumber last) (engine.reply turn)
      ∧ (engine.renumber last).take (turn.renumber last)
        = (engine.take turn).renumber last := by
  obtain ⟨act, now⟩ := turn
  cases act with
  | launch job parameters =>
      exact renumbered_map (engine.launch_renumber now job parameters)
        fun _ => rfl
  | stop id =>
      exact renumbered_map (engine.stop_renumber now id) fun _ => rfl
  | restart id =>
      exact renumbered_map (engine.restart_renumber now id) fun _ => rfl
  | startStep id name =>
      exact renumbered_map (engine.startStep_renumber now h id name)
        fun _ => rfl
  | recordChunk id step items =>
      exact renumbered_map (engine.recordChunk_renumber now id step items)
        fun _ => rfl
  | finishStep id step status =>
      exact renumbered_map (engine.finishStep_renumber now id step status)
        fun _ => rfl
  | finish id status exit =>
      exact renumbered_map (engine.finish_renumber now id status exit)
        fun _ => rfl
  | run id => exact ⟨rfl, engine.drive_renumber now h id⟩

/-- Nor does a play tell the two apart but by the ids of steps. -/
theorem play_renumber (hn : engine.Numbered) (h : last ≤ engine.lastStep)
    (turns : List Turn) :
    (engine.renumber last).replies (turns.map (·.renumber last))
        = (engine.replies turns).map
            (Answer.renumber last (·.renumber last))
      ∧ (engine.renumber last).play (turns.map (·.renumber last))
        = (engine.play turns).renumber last := by
  induction turns generalizing engine with
  | nil => exact ⟨rfl, rfl⟩
  | cons turn rest ih =>
      obtain ⟨hreply, htake⟩ := turn_renumber h turn
      have hle := (hn.effect turn).lastStep_le hn
      obtain ⟨hreplies, hplay⟩ := ih (hn.take turn) (Int.le_trans h hle)
      simp only [List.map_cons, replies, play_cons, hreply, htake,
        hreplies, hplay, and_self]

/-- Where all ids have been handed out, the renumbering only uses one
up. -/
theorem Numbered.renumber_eq (hn : engine.Numbered) :
    engine.renumber engine.lastStep = engine.skipStep := by
  have hexecutions : engine.executions.map (·.renumber engine.lastStep)
      = engine.executions := by
    refine (List.map_congr_left fun e he => ?_).trans (List.map_id _)
    exact e.renumber_of_le (hn.steps_le e he)
  have hrunners : engine.runners.map (·.renumber engine.lastStep)
      = engine.runners := by
    refine (List.map_congr_left fun r hr => ?_).trans (List.map_id _)
    refine r.renumber_of_le fun step hstep => ?_
    -- a runner works on a step that its execution has
    obtain ⟨e, he, hsteps⟩ := hn.known r hr
    obtain ⟨s, hs⟩ := Option.isSome_iff_exists.1 (hsteps step hstep)
    obtain ⟨hmem, rfl⟩ := mem_of_step? hs
    exact hn.steps_le e (mem_of_execution? he).1 s hmem
  unfold renumber skipStep
  rw [hexecutions, hrunners]

/-- A call that is refused leaves the engine as it was exactly if it does not
start a step, and whatever follows then is as if the call had not been made.
A start that is refused uses up the next step id, and whatever follows is as
if it had not been made, but that the ids of all steps started since are one
higher, for those who refer to them and for those who are told. -/
theorem refused_spares {definitions : List JobDefinition}
    {pace : Option Nat} (turns : List Turn) (turn : Turn)
    {failure : Failure}
    (hr : ((fresh definitions pace).play turns).reply turn
      = .error failure) :
    let engine := (fresh definitions pace).play turns
    let last := engine.lastStep
    (engine.take turn = engine ↔ turn.act.starts = false)
      ∧ (turn.act.starts = false → ∀ more,
          (engine.take turn).replies more = engine.replies more
            ∧ (engine.take turn).play more = engine.play more)
      ∧ (turn.act.starts = true →
          engine.take turn = { engine with lastStep := last + 1 }
            ∧ ∀ more : List Turn,
              (engine.take turn).replies (more.map (·.renumber last))
                  = (engine.replies more).map
                      (Answer.renumber last (·.renumber last))
                ∧ (engine.take turn).play (more.map (·.renumber last))
                  = (engine.play more).renumber last) := by
  intro engine last
  have hn : engine.Numbered := numbered_play definitions pace turns
  have htake := take_of_refused hr
  cases hstarts : turn.act.starts with
  | false =>
      have hsame : engine.take turn = engine := by
        rw [htake, hstarts]
        rfl
      refine ⟨iff_of_true hsame rfl, fun _ more => ?_, nofun⟩
      rw [hsame]
      exact ⟨rfl, rfl⟩
  | true =>
      have hskip : engine.take turn = engine.skipStep := by
        rw [htake, hstarts]
        rfl
      refine ⟨iff_of_false ?_ nofun, nofun, fun _ => ⟨hskip, ?_⟩⟩
      · rw [hskip]
        exact skipStep_ne
      · intro more
        rw [hskip, ← hn.renumber_eq]
        exact play_renumber hn (Int.le_refl _) more

-- ----------------------------------------------------------- a refused start

/-- A job that was launched once. -/
def oneLaunch : Engine :=
  (fresh [{ name := "import" }] none).play
    [⟨.launch "import" .empty, 0, 0⟩]

/-- Somebody starts a step of an execution that there is not. -/
def strayStart : Turn := ⟨.startStep 2 "read", 1, 0⟩

/-- Who starts a step of the one that there is, and counts a chunk for it,
goes through the same with another id. -/
theorem strayStart_followed :
    oneLaunch.reply strayStart = .error (.noSuchExecution 2)
      ∧ oneLaunch.replies
          [⟨.startStep 1 "read", 2, 0⟩, ⟨.recordChunk 1 1 5, 3, 0⟩]
        = [.ok (.step 1), .ok .done]
      ∧ (oneLaunch.take strayStart).replies
          [⟨.startStep 1 "read", 2, 0⟩, ⟨.recordChunk 1 2 5, 3, 0⟩]
        = [.ok (.step 2), .ok .done] := by
  have hr : oneLaunch.reply strayStart = .error (.noSuchExecution 2) := rfl
  obtain ⟨-, -, hstart⟩ := refused_spares _ strayStart hr
  obtain ⟨hreplies, -⟩ := (hstart rfl).2
    [⟨.startStep 1 "read", 2, 0⟩, ⟨.recordChunk 1 1 5, 3, 0⟩]
  exact ⟨hr, rfl, hreplies.trans rfl⟩

/-- The id told is not the one that would have been told without the refused
start. -/
theorem strayStart_counts :
    oneLaunch.reply strayStart = .error (.noSuchExecution 2)
      ∧ oneLaunch.reply ⟨.startStep 1 "read", 2, 0⟩ = .ok (.step 1)
      ∧ (oneLaunch.take strayStart).reply ⟨.startStep 1 "read", 2, 0⟩
        = .ok (.step 2) :=
  ⟨rfl, rfl, rfl⟩

end BatchAdmin.Engine
