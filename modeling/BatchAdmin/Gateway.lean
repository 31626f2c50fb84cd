/-
The gateway: settings, engine and depot behind one door.

Requests are answered one at a time. The gateway's own clock dates
executions; files are dated by the clock of the disk they lie on. While
the engine is out of reach, whatever needs it fails before anything
happens.
-/
import BatchAdmin.Engine.Runner
import BatchAdmin.JobDesk.Queries
import BatchAdmin.JobDesk.Control
import BatchAdmin.Publishing.Depot
import BatchAdmin.Settings.Basic

namespace BatchAdmin

/-- What is made to fail. -/
structure Outages where
  store : StoreFaults
  /-- The engine is out of reach. -/
  engineDown : Bool
  /-- Executions that cannot be stopped. -/
  unstoppable : Int → Bool

/-- Nothing is made to fail. -/
def Outages.none : Outages := ⟨.none, false, fun _ => false⟩

/-- The gateway. -/
structure Gateway where
  settings : Settings
  engine : Engine
  depot : Depot
  outages : Outages
  /-- When the gateway was opened. -/
  opened : Instant
  now : Instant
  /-- The time by the clock of the disk. -/
  diskNow : Instant

namespace Gateway

-- ================================================================== opening

/-- The pace of runners that the settings ask for. -/
def pace (s : SimulationSettings) : Option Nat :=
  if s.enabled then some s.stepDuration else none

/-- A gateway with these settings, opened at a moment; its staging area is
where this root is, under the name that the settings have for it. -/
def fresh (settings : Settings) (now : Instant)
    (root : StagingRoot := .usual) : Gateway :=
  { settings
    engine := .fresh settings.jobs (pace settings.simulation)
    depot := .fresh (Channel.ofRules? settings.publish)
      { root with spelled := settings.files.stagingDirectory }
    outages := .none, opened := now, now, diskNow := now }

-- =============================================================== the engine

/-- Why nothing is to be had from the engine. -/
def offline : Failure := .engine "engine offline"

/-- Something asked of the engine. -/
def ask {α : Type} (g : Gateway) (question : Engine → Instant → α) :
    Answer α :=
  if g.outages.engineDown then .error offline
  else .ok (question g.engine g.now)

/-- Something asked of the engine that may have no answer. -/
def tryAsk {α : Type} (g : Gateway)
    (question : Engine → Instant → Answer α) : Answer α :=
  if g.outages.engineDown then .error offline
  else question g.engine g.now

/-- Something the engine is told to do. -/
def tell {α : Type} (g : Gateway)
    (order : Engine → Instant → Answer α × Engine) : Answer α × Gateway :=
  if g.outages.engineDown then (.error offline, g)
  else
    let (answer, engine) := order g.engine g.now
    (answer, { g with engine })

/-- Launches a job. -/
def launch (g : Gateway) (job : String) (parameters : Dict) :
    Answer ExecutionReport × Gateway :=
  g.tell fun engine now => JobDesk.launch engine now job parameters

/-- Stops an execution. -/
def stop (g : Gateway) (id : Int) : Answer ExecutionReport × Gateway :=
  g.tell fun engine now =>
    JobDesk.stop g.outages.unstoppable engine now id

/-- Stops every execution that runs. -/
def stopAll (g : Gateway) : Answer Nat × Gateway :=
  g.tell fun engine now =>
    let (count, engine) :=
      JobDesk.stopAll g.outages.unstoppable engine now
    (.ok count, engine)

/-- Restarts an execution. -/
def restart (g : Gateway) (id : Int) :
    Answer ExecutionReport × Gateway :=
  g.tell fun engine now => JobDesk.restart engine now id

-- ================================================================ the depot

/-- A window of the staged files, and how many there are. -/
def listFiles (g : Gateway) (offset limit : Nat) :
    Answer (List FileInfo × Nat) :=
  Desk.list g.settings.deskRules g.outages.store g.depot.area offset limit

/-- The gateway after something was done in the depot. -/
def stored {α : Type} (g : Gateway) :
    Answer α × Depot → Answer α × Gateway :=
  fun (answer, depot) => (answer, { g with depot })

/-- Deletes the files that a pattern matches. -/
def deleteFiles (g : Gateway) (pattern : String) : Answer Nat × Gateway :=
  g.stored (g.depot.delete g.outages.store pattern)

/-- Creates an empty file. -/
def createFile (g : Gateway) (path : String) :
    Answer FileInfo × Gateway :=
  g.stored (g.depot.create g.settings.deskRules g.outages.store path
    g.diskNow)

/-- Uploads content to a path. -/
def upload (g : Gateway) (path : String) (content : Content) :
    Answer FileInfo × Gateway :=
  g.stored (g.depot.upload g.settings.deskRules g.outages.store path
    content g.diskNow)

/-- Uploads content into a folder and hands the file on. -/
def uploadAndPublish (g : Gateway) (folder name : String)
    (content : Content) : Answer FileInfo × Gateway :=
  g.stored (g.depot.uploadAndPublish g.settings.deskRules
    g.outages.store folder name content g.diskNow)

-- ================================================================= the time

/-- The gateway some milliseconds later; the runners have moved on. -/
def advance (g : Gateway) (ms : Nat) : Gateway :=
  { g with
    engine := g.engine.runFor ms g.now
    now := g.now.later ms
    diskNow := g.diskNow.later ms }

/-- The gateway after its runners have moved as far as they can. -/
def settle (g : Gateway) : Gateway :=
  { g with engine := g.engine.settle g.now }

end Gateway

end BatchAdmin
