/-
Handlers: what each route answers.

A handler reads the parameters of its route, then its query, then its
body, and the first of them that cannot be read is what the client is
told. Listings are paged unless they are asked for by instance; every
entity is told with a link to itself.
-/
import BatchAdmin.Gateway
import BatchAdmin.Paging.Link
import BatchAdmin.Web.LaunchBody
import BatchAdmin.Web.Query
import BatchAdmin.Web.Route
import BatchAdmin.Web.UploadForm

namespace BatchAdmin.Web

open Text

/-- The base path without a slash at its end, as links show it. -/
def basePath (g : Gateway) : List Char :=
  bareRoute g.settings.http.basePath.toList

/-- A route as links name it. -/
def linkRoute (g : Gateway) (path : String) : String :=
  String.ofList (basePath g ++ path.toList)

-- ==================================================================== pages

/-- The page that a query asks for: the first, and of the usual size,
unless it says otherwise. -/
def pageRequest (g : Gateway) (page size : Option Int) :
    Answer PageRequest :=
  PageRequest.read (page.getD 0)
    (size.getD g.settings.http.defaultPageSize)

/-- The page and size of a query. -/
def pageParameters (q : Query) : Answer (Option Int × Option Int) := do
  return (← q.number "page", ← q.number "size")

/-- A page of linked entities. -/
def paged {α : Type} [Addressed α] (g : Gateway) (path : String)
    (filters : Filters) (r : PageRequest) (total : Nat)
    (items : List α) : Json :=
  (Page.ofRequest r total items).linkedJson (linkRoute g path) filters

-- ==================================================================== files

/-- A listing of the staged files. -/
def listFiles (g : Gateway) (q : Query) : Answer Json := do
  let (page, size) ← pageParameters q
  let r ← pageRequest g page size
  let (files, total) ← g.listFiles r.offset r.size
  return paged g "/files" [] r total files

/-- An upload; the query may name the folder. -/
def uploadFile (g : Gateway) (q : Query) (r : Request) :
    Response × Gateway :=
  match q.text "path" with
  | .error failure => (.ofFailure failure, g)
  | .ok folder => UploadForm.handle g r folder

/-- An upload into a folder that the route names. -/
def uploadInto (g : Gateway) (path : List Char) (r : Request) :
    Response × Gateway :=
  match Route.textParameter path with
  | .error failure => (.ofFailure failure, g)
  | .ok folder => UploadForm.handle g r (some folder)

/-- A delete by pattern. -/
def deleteFiles (g : Gateway) (path : List Char) : Response × Gateway :=
  match Route.textParameter path with
  | .error failure => (.ofFailure failure, g)
  | .ok pattern =>
      let (answer, g) := g.deleteFiles pattern
      (.ofAnswer 200 (answer.map fun count =>
        (FileInfo.ofDelete pattern count).toJson), g)

-- ===================================================================== jobs

/-- A listing of the jobs. -/
def listJobs (g : Gateway) (q : Query) : Answer Json := do
  let (page, size) ← pageParameters q
  let r ← pageRequest g page size
  let jobs ← g.ask fun e now => JobDesk.jobs e now r.offset r.size
  let total ← g.ask fun e _ => JobDesk.countJobs e
  return paged g "/configurations" [] r total jobs

/-- A job with a window of its instances. -/
def jobDetail (g : Gateway) (job : List Char) (q : Query) :
    Answer Json := do
  let job ← Route.textParameter job
  let start ← q.number "startJobInstance"
  let size ← q.number "pageSize"
  let start := start.getD 0
  let size := size.getD g.settings.http.defaultPageSize
  if start < 0 ∨ size ≤ 0 then
    throw (.invalidPage
      ("startJobInstance must be >= 0 and pageSize > 0, got "
        ++ intText start ++ " and " ++ intText size))
  let detail ← g.tryAsk fun e now =>
    JobDesk.detail e now job start.toNat size.toNat
  return linked (linkRoute g "/configurations") detail

/-- A listing of the instances of a job. -/
def listInstances (g : Gateway) (q : Query) : Answer Json := do
  let job ← q.text "jobname"
  let (page, size) ← pageParameters q
  match job with
  | none =>
      throw (.invalidRequest "query parameter 'jobname' is required")
  | some job =>
      let r ← pageRequest g page size
      let instances ← g.tryAsk fun e now =>
        JobDesk.instances e now job r.offset r.size
      let total ← g.ask fun e _ => JobDesk.countInstances e job
      return paged g "/instances" [("jobname", job)] r total instances

/-- An instance. -/
def findInstance (g : Gateway) (id : List Char) : Answer Json := do
  let id ← Route.numberParameter id
  let i ← g.tryAsk fun e now => JobDesk.findInstance e now id
  return linked (linkRoute g "/instances") i

-- =============================================================== executions

/-- A page of all executions or of those of one job. -/
def pageExecutions (g : Gateway) (job : Option String)
    (r : PageRequest) : Answer Json :=
  match job with
  | some job => do
      let es ← g.ask fun e now =>
        JobDesk.executionsOf e now job r.offset r.size
      let total ← g.ask fun e _ => JobDesk.countExecutionsOf e job
      return paged g "/executions" [("jobname", job)] r total es
  | none => do
      let es ← g.ask fun e now =>
        JobDesk.executions e now r.offset r.size
      let total ← g.ask fun e _ => JobDesk.countExecutions e
      return paged g "/executions" [] r total es

/-- A listing of executions; that of an instance is not paged. -/
def listExecutions (g : Gateway) (q : Query) : Answer Json := do
  let job ← q.text "jobname"
  let instanceId ← q.number "jobinstanceid"
  let (page, size) ← pageParameters q
  match instanceId with
  | some id =>
      let es ← g.tryAsk fun e now =>
        JobDesk.executionsOfInstance e now job id
      return .list (es.map (linked (linkRoute g "/executions")))
  | none => pageExecutions g job (← pageRequest g page size)

/-- The response to something done to an execution. -/
def controlled (status : Nat) :
    Answer ExecutionReport × Gateway → Response × Gateway
  | (answer, g) =>
      (.ofAnswer status
        (answer.map (linked (linkRoute g "/executions"))), g)

/-- A launch. -/
def launch (g : Gateway) (r : Request) : Response × Gateway :=
  let asked : Answer (String × Dict) := do
    let body ← LaunchBody.read r
    return (body.job, ← body.effective)
  match asked with
  | .error failure => (.ofFailure failure, g)
  | .ok (job, parameters) => controlled 201 (g.launch job parameters)

/-- What a query asks to be done: whether to stop, whether to
restart. -/
def controlParameters (q : Query) : Answer (Bool × Bool) := do
  return (← q.truth "stop", ← q.truth "restart")

/-- A stop of all executions. -/
def stopAll (g : Gateway) (q : Query) : Response × Gateway :=
  match controlParameters q with
  | .error failure => (.ofFailure failure, g)
  | .ok (false, _) =>
      (.ofFailure (.invalidRequest "expected stop=true"), g)
  | .ok (true, _) =>
      let (answer, g) := g.stopAll
      (.ofAnswer 200 (answer.map fun count =>
        .object [("stoppedCount", .nat count)]), g)

/-- A stop or a restart of one execution. -/
def controlExecution (g : Gateway) (id : List Char) (q : Query) :
    Response × Gateway :=
  let asked : Answer (Int × Bool × Bool) := do
    return (← Route.numberParameter id, ← controlParameters q)
  match asked with
  | .error failure => (.ofFailure failure, g)
  | .ok (id, true, false) => controlled 200 (g.stop id)
  | .ok (id, false, true) => controlled 201 (g.restart id)
  | .ok _ =>
      (.ofFailure (.invalidRequest
        "expected exactly one of stop=true or restart=true"), g)

/-- An execution. -/
def findExecution (g : Gateway) (id : List Char) : Answer Json := do
  let id ← Route.numberParameter id
  let e ← g.tryAsk fun e now => JobDesk.findExecution e now id
  return linked (linkRoute g "/executions") e

-- ==================================================================== steps

/-- The steps of an execution. -/
def listSteps (g : Gateway) (id : List Char) : Answer Json := do
  let id ← Route.numberParameter id
  let steps ← g.tryAsk fun e now => JobDesk.steps e now id
  return .list (steps.map (linked (linkRoute g "/executions")))

/-- A step of an execution. -/
def findStep (g : Gateway) (id step : List Char) : Answer Json := do
  let id ← Route.numberParameter id
  let step ← Route.numberParameter step
  let s ← g.tryAsk fun e now => JobDesk.findStep e now id step
  return linked (linkRoute g "/executions") s

/-- The progress of a step. -/
def stepProgress (g : Gateway) (id step : List Char) : Answer Json := do
  let id ← Route.numberParameter id
  let step ← Route.numberParameter step
  let p ← g.tryAsk fun e now => JobDesk.progress e now id step
  return p.toJson

-- =================================================================== health

/-- The version that the gateway tells. -/
def version : String := "0.1.0"

/-- How the gateway is. -/
def health (g : Gateway) : Answer Json := do
  let running ← g.ask fun e _ => e.running.length
  return .object [("status", .text "ok"), ("version", .text version),
    ("uptimeSeconds", .nat (g.opened.millisBetween g.now / 1000)),
    ("runningExecutions", .nat running)]

-- =================================================================== routing

/-- A question that changes nothing. -/
def asked (g : Gateway) (answer : Answer Json) : Response × Gateway :=
  (.ofAnswer 200 answer, g)

/-- The answer of a route to a method it allows; a request for the head
alone is answered like the whole. -/
def answerRoute (g : Gateway) (route : Route) (method : String)
    (q : Query) (r : Request) : Response × Gateway :=
  match route, method with
  | .files, "POST" => uploadFile g q r
  | .files, _ => asked g (listFiles g q)
  | .filesAt path, "POST" => uploadInto g path r
  | .filesAt path, _ => deleteFiles g path
  | .configurations, _ => asked g (listJobs g q)
  | .configuration job, _ => asked g (jobDetail g job q)
  | .instances, _ => asked g (listInstances g q)
  | .instanceAt id, _ => asked g (findInstance g id)
  | .executions, "POST" => launch g r
  | .executions, "PUT" => stopAll g q
  | .executions, _ => asked g (listExecutions g q)
  | .executionAt id, "PUT" => controlExecution g id q
  | .executionAt id, _ => asked g (findExecution g id)
  | .steps id, _ => asked g (listSteps g id)
  | .stepAt id step, _ => asked g (findStep g id step)
  | .progress id step, _ => asked g (stepProgress g id step)
  | .health, _ => asked g (health g)

/-- The answer of a route behind a base path. A handler that reads the
parameters of its route takes none besides them. -/
def answerBehind (g : Gateway) (base : BasePath) (route : Route)
    (method : String) (q : Query) (r : Request) : Response × Gateway :=
  if 0 < base.holes ∧ route.isParametric then
    (.ofFailure Route.crowded, g)
  else answerRoute g route method q r

/-- Answers a request. -/
def handle (g : Gateway) (r : Request) : Response × Gateway :=
  let (path, q) := readTarget r.uri
  let base := BasePath.ofText (basePath g)
  match Route.find? base path with
  | none => (.notFound, g)
  | some route =>
      if !route.allowed.contains r.method then
        (.notAllowed (",".intercalate route.allowed), g)
      else
        let (response, g) := answerBehind g base route r.method q r
        if r.method = "HEAD" then (response.withoutBody, g)
        else (response, g)

end BatchAdmin.Web
