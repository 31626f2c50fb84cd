/-
What can happen to a gateway.

Clients ask for something, time passes, runners move on, and parts of the
gateway fail or work again (`Event`). What is asked of the engine is a number
of turns of the engine, and what is asked of the depot is a visit there, so
the two go on behind the door as they do alone (`ComesFrom`); neither knows
of the other.

`comesFrom_play`: whatever happens to a gateway, its engine is one that has
been played and its depot one that has been visited, under the settings that
the gateway was opened with. So what holds after every play and after all
visits holds of the parts of every gateway (`opened_play`).
-/
import BatchAdmin.Gateway
import BatchAdmin.Proofs.Engine.Schedule
import BatchAdmin.Proofs.JobDesk.Decisions
import BatchAdmin.Proofs.Publishing.Workflow

namespace BatchAdmin

-- ================================================================ the engine

namespace Engine

/-- One engine comes to be another by turns. -/
def Becomes (engine next : Engine) : Prop :=
  ∃ turns, next = engine.play turns

variable {engine next last : Engine}

theorem Becomes.refl (engine : Engine) : engine.Becomes engine := ⟨[], rfl⟩

theorem Becomes.trans (h : engine.Becomes next) (h' : next.Becomes last) :
    engine.Becomes last := by
  obtain ⟨turns, rfl⟩ := h
  obtain ⟨more, rfl⟩ := h'
  exact ⟨turns ++ more, (play_append engine turns more).symm⟩

theorem becomes_take (engine : Engine) (turn : Turn) :
    engine.Becomes (engine.take turn) := ⟨[turn], rfl⟩

theorem Becomes.numbered (h : engine.Becomes next) (hn : engine.Numbered) :
    next.Numbered := by
  obtain ⟨turns, rfl⟩ := h
  exact hn.play turns

theorem becomes_settle (hn : engine.Numbered) (now : Instant) :
    engine.Becomes (engine.settle now) := by
  obtain ⟨turns, -, hplay⟩ := settle_eq_play hn now
  exact ⟨turns, hplay⟩

theorem becomes_runFor (hn : engine.Numbered) (ms : Nat) (now : Instant) :
    engine.Becomes (engine.runFor ms now) := by
  obtain ⟨turns, -, hplay⟩ := runFor_eq_play hn ms now
  exact ⟨turns, hplay⟩

end Engine

namespace JobDesk

variable {engine : Engine} {stuck : Int → Bool}

theorem becomes_launch (engine : Engine) (now : Instant) (job : String)
    (parameters : Dict) :
    engine.Becomes (launch engine now job parameters).2 := by
  rw [launch_eq, reported_engine]
  exact engine.becomes_take ⟨.launch job parameters, now⟩

theorem becomes_restart (engine : Engine) (now : Instant) (id : Int) :
    engine.Becomes (restart engine now id).2 := by
  rw [restart_eq, reported_engine]
  exact engine.becomes_take ⟨.restart id, now⟩

/-- A stop that is made to fail is no turn. -/
theorem becomes_stopUnless (stuck : Int → Bool) (engine : Engine)
    (now : Instant) (id : Int) :
    engine.Becomes (stopUnless stuck engine now id).2 := by
  unfold stopUnless
  split
  · exact .refl engine
  · exact engine.becomes_take ⟨.stop id, now⟩

theorem becomes_stop (stuck : Int → Bool) (engine : Engine)
    (now : Instant) (id : Int) :
    engine.Becomes (stop stuck engine now id).2 := by
  unfold stop
  split
  · exact .refl engine
  · rw [reported_engine]
    exact becomes_stopUnless stuck engine now id

/-- To stop many is to stop one after the other. -/
theorem becomes_stopEach (stuck : Int → Bool) (now : Instant)
    (ids : List Int) (engine : Engine) :
    engine.Becomes (stopEach stuck now ids engine).2 := by
  induction ids generalizing engine with
  | nil => exact .refl engine
  | cons id rest ih =>
      have hone := becomes_stopUnless stuck engine now id
      unfold stopEach
      rcases hstop : stopUnless stuck engine now id with ⟨failure | e, next⟩
      · rw [hstop] at hone
        exact hone.trans (ih next)
      · rw [hstop] at hone
        exact hone.trans (ih next)

theorem becomes_stopAll (stuck : Int → Bool) (engine : Engine)
    (now : Instant) : engine.Becomes (stopAll stuck engine now).2 := by
  unfold stopAll
  apply becomes_stopEach

end JobDesk

-- ================================================================ the events

namespace Gateway

/-- What can happen to a gateway. -/
inductive Event where
  | launch (job : String) (parameters : Dict)
  | stop (execution : Int)
  | stopAll
  | restart (execution : Int)
  | create (path : String)
  | upload (path : String) (content : Content)
  | uploadAndPublish (folder name : String) (content : Content)
  | delete (pattern : String)
  /-- Some milliseconds pass. -/
  | advance (ms : Nat)
  /-- The runners move as far as they can. -/
  | settle
  /-- From now on this is made to fail and nothing else. -/
  | suffer (outages : Outages)

/-- The gateway after an event. -/
def after (g : Gateway) : Event → Gateway
  | .launch job parameters => (g.launch job parameters).2
  | .stop id => (g.stop id).2
  | .stopAll => g.stopAll.2
  | .restart id => (g.restart id).2
  | .create path => (g.createFile path).2
  | .upload path content => (g.upload path content).2
  | .uploadAndPublish folder name content =>
      (g.uploadAndPublish folder name content).2
  | .delete pattern => (g.deleteFiles pattern).2
  | .advance ms => g.advance ms
  | .settle => g.settle
  | .suffer outages => { g with outages }

/-- The gateway after some events, one after the other. -/
def play (g : Gateway) (events : List Event) : Gateway :=
  events.foldl after g

theorem play_append (g : Gateway) (events more : List Event) :
    g.play (events ++ more) = (g.play events).play more :=
  List.foldl_append

-- ================================================================= the parts

/-- A gateway has come from another one: the settings are the same, the
engine has taken turns and the depot has had visits. -/
structure ComesFrom (start g : Gateway) : Prop where
  settings : g.settings = start.settings
  engine : start.engine.Becomes g.engine
  depot : ∀ d : Daybook, d.depot = start.depot →
    ∃ visits, g.depot = (d.play start.settings.deskRules visits).depot

variable {start g : Gateway}

theorem ComesFrom.refl (g : Gateway) : g.ComesFrom g :=
  ⟨rfl, .refl _, fun _ hd => ⟨[], hd.symm⟩⟩

/-- The engine may go on while the depot stays. -/
theorem ComesFrom.turned (h : start.ComesFrom g) {g' : Gateway}
    (hengine : g.engine.Becomes g'.engine)
    (hsettings : g'.settings = g.settings) (hdepot : g'.depot = g.depot) :
    start.ComesFrom g' :=
  ⟨hsettings.trans h.settings, h.engine.trans hengine,
    fun d hd => hdepot ▸ h.depot d hd⟩

/-- The depot may have one more visit while the engine stays. -/
theorem ComesFrom.visited (h : start.ComesFrom g) (purpose : Purpose)
    {depot : Depot}
    (hvisit : ∀ told, depot
      = Visit.serve ⟨purpose, g.outages.store, g.diskNow⟩
          g.settings.deskRules told g.depot) :
    start.ComesFrom { g with depot } := by
  refine ⟨h.settings, h.engine, fun d hd => ?_⟩
  obtain ⟨visits, hdepot⟩ := h.depot d hd
  refine ⟨visits ++ [⟨purpose, g.outages.store, g.diskNow⟩], ?_⟩
  show depot = _
  rw [h.settings] at hvisit
  unfold Daybook.play at hdepot ⊢
  rw [List.foldl_concat, Daybook.depot_take, ← hdepot]
  apply hvisit

/-- What the engine is told is all that becomes of the gateway. -/
theorem tell_eq {α : Type} (g : Gateway)
    (order : Engine → Instant → Answer α × Engine) :
    g.tell order
      = if g.outages.engineDown then (.error offline, g)
        else ((order g.engine g.now).1,
          { g with engine := (order g.engine g.now).2 }) := rfl

theorem ComesFrom.told (h : start.ComesFrom g) {α : Type}
    {order : Engine → Instant → Answer α × Engine}
    (horder : ∀ (engine : Engine) (now : Instant),
      engine.Becomes (order engine now).2) :
    start.ComesFrom (g.tell order).2 := by
  rw [tell_eq]
  split
  · exact h
  · exact h.turned (horder g.engine g.now) rfl rfl

/-- What happens next keeps to the parts. -/
theorem ComesFrom.after (h : start.ComesFrom g)
    (hn : start.engine.Numbered) (event : Event) :
    start.ComesFrom (g.after event) := by
  cases event with
  | launch job parameters =>
      exact h.told fun engine now =>
        JobDesk.becomes_launch engine now job parameters
  | stop id =>
      exact h.told fun engine now =>
        JobDesk.becomes_stop g.outages.unstoppable engine now id
  | stopAll =>
      exact h.told fun engine now =>
        JobDesk.becomes_stopAll g.outages.unstoppable engine now
  | restart id =>
      exact h.told fun engine now => JobDesk.becomes_restart engine now id
  | create path => exact h.visited (.create path) fun _ => rfl
  | upload path content => exact h.visited (.upload path content) fun _ => rfl
  | uploadAndPublish folder name content =>
      exact h.visited (.uploadAndPublish folder name content) fun _ => rfl
  | delete pattern => exact h.visited (.delete pattern) fun _ => rfl
  | advance ms =>
      exact h.turned (Engine.becomes_runFor (h.engine.numbered hn) ms g.now)
        rfl rfl
  | settle =>
      exact h.turned (Engine.becomes_settle (h.engine.numbered hn) g.now)
        rfl rfl
  | suffer outages => exact h.turned (.refl _) rfl rfl

/-- So does all that happens. -/
theorem comesFrom_play (hn : start.engine.Numbered) (events : List Event) :
    start.ComesFrom (start.play events) := by
  induction events using List.reverseRecOn with
  | nil => exact .refl start
  | append_singleton events event ih =>
      rw [play_append]
      exact ih.after hn event

end Gateway

end BatchAdmin
