/-
What clients bring about at a gateway.

However a gateway has come to be as it is, its engine has been played and its
depot visited (Events), so its records hold together (`Sound`). Therefore a
launch at the door comes to what a launch comes to at the job desk, and so do
a restart and stops of one execution or of all, unless the engine is out of reach: then
the client is told so and nothing happens (`Carried`). An upload that is to be
handed on ends as one does in the depot, whether the engine can be reached or
not. Nothing else about the gateway changes by any of them.
-/
import BatchAdmin.Proofs.Gateway.Events
import BatchAdmin.Proofs.JobDesk.StopAll

namespace BatchAdmin.Gateway

-- =============================================================== the records

/-- The records of a gateway hold together: those of the engine, what is
staged, and the keys that the publisher has claimed. -/
structure Sound (g : Gateway) : Prop where
  numbered : g.engine.Numbered
  tied : g.engine.Tied
  orderly : g.depot.area.Orderly
  /-- The number of the next upload is in no key. -/
  unclaimed : ∀ key ∈ g.depot.publisher.claimed,
    key.uploadId ≠ some g.depot.uploads

/-- They do, whatever has happened since the gateway was opened. -/
theorem sound_play (settings : Settings) (now : Instant)
    (root : StagingRoot) (events : List Event) :
    ((fresh settings now root).play events).Sound := by
  let start := fresh settings now root
  have hn : start.engine.Numbered :=
    Engine.numbered_fresh settings.jobs (pace settings.simulation)
  have ht : start.engine.Tied :=
    Engine.tied_fresh settings.jobs (pace settings.simulation)
  have ho : start.depot.area.Orderly := StagingArea.orderly_fresh _
  have hfrom : start.ComesFrom (start.play events) := comesFrom_play hn events
  obtain ⟨turns, hengine⟩ := hfrom.engine
  obtain ⟨visits, hdepot⟩ := hfrom.depot
    (.opened settings.deskRules start.depot.area start.depot.publisher.channel)
    rfl
  have hd := Daybook.sound_play ho settings.deskRules
    start.depot.publisher.channel visits
  refine ⟨?_, ?_, ?_, ?_⟩
  · show (start.play events).engine.Numbered
    rw [hengine]
    exact hn.play turns
  · show (start.play events).engine.Tied
    rw [hengine]
    exact ht.play hn turns
  · show (start.play events).depot.area.Orderly
    rw [hdepot]
    exact hd.orderly
  · show ∀ key ∈ (start.play events).depot.publisher.claimed,
      key.uploadId ≠ some (start.play events).depot.uploads
    rw [hdepot]
    exact hd.unclaimed

-- ========================================================= told to the engine

variable {α : Type} {g : Gateway} {P : Answer α → Engine → Prop}

/-- An order to the engine is carried out with this answer and this engine
after it, or cannot be given; what is no part of the engine stays. -/
structure Carried (P : Answer α → Engine → Prop) (g : Gateway)
    (outcome : Answer α × Gateway) : Prop where
  offline : g.outages.engineDown = true → outcome = (.error offline, g)
  online : g.outages.engineDown = false → P outcome.1 outcome.2.engine
  rest : outcome.2 = { g with engine := outcome.2.engine }

theorem carried_tell {order : Engine → Instant → Answer α × Engine}
    (h : P (order g.engine g.now).1 (order g.engine g.now).2) :
    Carried P g (g.tell order) := by
  rw [tell_eq]
  cases hdown : g.outages.engineDown with
  | true =>
      rw [if_pos rfl]
      exact ⟨fun _ => rfl, fun hup => absurd (hdown.symm.trans hup) (by simp),
        rfl⟩
  | false =>
      rw [if_neg (by simp)]
      exact ⟨fun hup => absurd (hdown.symm.trans hup) (by simp), fun _ => h,
        rfl⟩

/-- A launch is decided as at the job desk. -/
theorem Sound.launch (h : g.Sound) (job : String) (parameters : Dict) :
    Carried (JobDesk.LaunchDecided g.engine g.now job parameters) g
      (g.launch job parameters) := by
  apply carried_tell
  apply JobDesk.decided_launch h.numbered h.tied

/-- So is a restart. -/
theorem Sound.restart (h : g.Sound) (id : Int) :
    Carried (JobDesk.RestartDecided g.engine g.now id) g (g.restart id) := by
  apply carried_tell
  apply JobDesk.decided_restart h.numbered h.tied

/-- What a stop of one execution comes to. -/
structure Stops (g : Gateway) (id : Int) (answer : Answer ExecutionReport)
    (next : Engine) : Prop where
  unknown : g.engine.execution? id = none →
    answer = .error (.noSuchExecution id) ∧ next = g.engine
  stuck : ∀ e, g.engine.execution? id = some e →
    g.outages.unstoppable id = true →
    answer = .error (.engine ("cannot stop " ++ Text.intText id))
      ∧ next = g.engine
  /-- One that has ended already is left as it is. -/
  halted : ∀ e, g.engine.execution? id = some e →
    g.outages.unstoppable id = false →
    (∃ report, answer = .ok report)
      ∧ next = if e.isRunning then g.engine.put (g.engine.halted g.now e)
          else g.engine

theorem stop_carried (g : Gateway) (id : Int) :
    Carried (g.Stops id) g (g.stop id) := by
  apply carried_tell
  unfold JobDesk.stop Engine.findExecution
  cases he : g.engine.execution? id with
  | none =>
      refine ⟨fun _ => ⟨rfl, rfl⟩, fun e he' => ?_, fun e he' => ?_⟩
      · cases he.symm.trans he'
      · cases he.symm.trans he'
  | some e =>
      dsimp only
      rw [JobDesk.reported_engine]
      unfold JobDesk.stopUnless
      refine ⟨fun hno => absurd (he.symm.trans hno) (by simp),
        fun e' he' hstuck => ?_, fun e' he' hfree => ?_⟩
      · rw [hstuck, if_pos rfl]
        exact ⟨rfl, rfl⟩
      · obtain rfl : e = e' := Option.some.inj (he.symm.trans he')
        rw [hfree, if_neg (by simp)]
        obtain ⟨x, hx⟩ := Engine.stop_isOk he g.now
        refine ⟨⟨_, JobDesk.reported_ok.2 ⟨x, hx, rfl⟩⟩, ?_⟩
        by_cases hr : e.isRunning = true
        · rw [if_pos hr, Engine.stop_eq_put he hr]
        · rw [if_neg hr]
          unfold Engine.stop
          rw [he]
          dsimp only
          rw [if_pos (by simpa using hr)]

/-- The executions that a stop of everything halts. -/
def halts (g : Gateway) (e : Execution) : Bool :=
  e.isRunning && !g.outages.unstoppable e.id

/-- A stop of everything halts what runs and can be stopped, and counts
it. -/
theorem Sound.stopAll (h : g.Sound) :
    Carried (fun answer next =>
        answer = .ok (g.engine.executions.filter g.halts).length
          ∧ next = g.engine.haltAll g.now g.halts) g g.stopAll := by
  apply carried_tell
  have hall : JobDesk.stopAll g.outages.unstoppable g.engine g.now
      = ((g.engine.executions.filter g.halts).length,
          g.engine.haltAll g.now g.halts) := JobDesk.stopAll_eq h.numbered
  rw [hall]
  exact ⟨rfl, rfl⟩

-- ========================================================= told to the depot

/-- An upload that is to be handed on ends as in the depot, under the rules
of the settings and by the clock of the disk. -/
theorem Sound.uploadAndPublish (h : g.Sound) (folder name : String)
    (content : Content) :
    Depot.Ends g.settings.deskRules g.outages.store g.depot folder name
        content g.diskNow
        ((g.uploadAndPublish folder name content).1,
          (g.uploadAndPublish folder name content).2.depot)
      ∧ (g.uploadAndPublish folder name content).2
        = { g with depot := (g.uploadAndPublish folder name content).2.depot } :=
  ⟨Depot.ends h.orderly h.unclaimed g.settings.deskRules g.outages.store folder
    name content g.diskNow, rfl⟩

end BatchAdmin.Gateway
