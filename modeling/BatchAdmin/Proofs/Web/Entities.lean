/-
The entities that answers carry.

Jobs, instances, executions and steps are told one by one, in lists and in
pages (`entitiesIn`). Whatever the request was, an entity that an answer
carries is one that the engine keeps, told with its link at the moment of
the answer (`Carries`): that is shown handler by handler, and for all of
them in `tells_of_answerRoute`.
-/
import BatchAdmin.Proofs.Engine.Identity
import BatchAdmin.Proofs.Web.Links
import BatchAdmin.Proofs.Web.Listings

namespace BatchAdmin.Web

open Text

variable {g : Gateway} {q : Query} {doc entity : Json}

-- ============================================================== the entities

/-- The entities that the answer to a listing or to a question for a detail
carries: those of a list, those of a page, or the one that it is. -/
def entitiesIn (doc : Json) : List Json :=
  match doc, doc.field? "content" with
  | .list items, _ => items
  | _, some (.list items) => items
  | doc, _ => [doc]

/-- What is told of a record that the engine keeps, with the key of it. A
job may be told with some of its instances. -/
inductive Carries (g : Gateway) : ResourceId → Json → Prop
  | summary {job : String} (hjob : g.engine.hasJob job = true) :
      Carries g (.job job) (linked (linkRoute g "/configurations")
        (JobDesk.summary g.engine g.now job))
  | detail {job : String} (hjob : g.engine.hasJob job = true)
      (instances : List InstanceReport) :
      Carries g (.job job) (linked (linkRoute g "/configurations")
        ({ summary := JobDesk.summary g.engine g.now job
           instances } : JobDetail))
  | jobInstance {i : JobInstance} (hi : i ∈ g.engine.instances) :
      Carries g (.jobInstance i.id) (linked (linkRoute g "/instances")
        (InstanceReport.of g.now i (g.engine.attemptsOf i.id).reverse))
  | execution {e : Execution} (he : e ∈ g.engine.executions) :
      Carries g (.execution e.id) (linked (linkRoute g "/executions")
        (ExecutionReport.of g.now e))
  | step {e : Execution} {s : StepExecution}
      (he : e ∈ g.engine.executions) (hs : s ∈ e.steps) :
      Carries g (.step s.executionId s.id)
        (linked (linkRoute g "/executions") (StepReport.of g.now s))

/-- An engine within reach has told of the entity. -/
def Tells (g : Gateway) (entity : Json) : Prop :=
  g.outages.engineDown = false ∧ ∃ key, Carries g key entity

-- =============================================================== the answers

/-- An answer made in two steps has been given in both. -/
theorem bind_eq_ok {α β : Type} {x : Answer α} {f : α → Answer β}
    {b : β} :
    x >>= f = .ok b ↔ ∃ a, x = .ok a ∧ f a = .ok b := by
  cases x with
  | error failure =>
      constructor
      · exact fun h => nomatch h
      · exact fun ⟨_, h, _⟩ => nomatch h
  | ok a =>
      refine ⟨fun h => ⟨a, rfl, h⟩, ?_⟩
      rintro ⟨_, h, hf⟩
      cases h
      exact hf

theorem ask_eq_ok {α : Type} {question : Engine → Instant → α} {a : α} :
    g.ask question = .ok a
      ↔ g.outages.engineDown = false ∧ question g.engine g.now = a := by
  unfold Gateway.ask
  cases g.outages.engineDown <;> simp

theorem tryAsk_eq_ok {α : Type} {question : Engine → Instant → Answer α}
    {a : α} : g.tryAsk question = .ok a
      ↔ g.outages.engineDown = false ∧ question g.engine g.now = .ok a := by
  unfold Gateway.tryAsk
  cases g.outages.engineDown <;> simp

theorem entitiesIn_list (items : List Json) :
    entitiesIn (.list items) = items := rfl

/-- A page carries what it was made from. -/
theorem mem_entitiesIn_paged {α : Type} [Addressed α] {path : String}
    {filters : Filters} {r : PageRequest} {total : Nat} {items : List α}
    (h : entity ∈ entitiesIn (paged g path filters r total items)) :
    ∃ item ∈ items, linked (linkRoute g path) item = entity := by
  have hcontent : entitiesIn (paged g path filters r total items)
      = (items.take r.size).map (linked (linkRoute g path)) := rfl
  rw [hcontent] at h
  obtain ⟨item, hitem, heq⟩ := List.mem_map.1 h
  exact ⟨item, List.mem_of_mem_take hitem, heq⟩

theorem mem_of_mem_window {α : Type} {offset limit : Nat} {xs : List α}
    {x : α} (h : x ∈ Engine.window offset limit xs) : x ∈ xs :=
  List.mem_of_mem_drop (List.mem_of_mem_take h)

-- ===================================================================== jobs

/-- A job that is listed is known. -/
theorem hasJob_of_mem_jobNames {engine : Engine} {job : String}
    (h : job ∈ engine.jobNames) : engine.hasJob job = true := by
  unfold Engine.hasJob Engine.definition?
  rw [Bool.or_eq_true]
  rcases Engine.mem_jobNames.1 h with ⟨d, hd, rfl⟩ | ⟨e, he, rfl⟩
  · refine .inl (List.find?_isSome.2 ⟨d, List.mem_reverse.2 hd, ?_⟩)
    exact beq_self_eq_true d.name
  · exact .inr (List.any_eq_true.2 ⟨e, he, beq_self_eq_true e.job⟩)

theorem tells_listJobs (h : listJobs g q = .ok doc)
    (hmem : entity ∈ entitiesIn doc) : Tells g entity := by
  unfold listJobs at h
  obtain ⟨⟨page, size⟩, -, h⟩ := bind_eq_ok.1 h
  obtain ⟨r, -, h⟩ := bind_eq_ok.1 h
  obtain ⟨jobs, hjobs, h⟩ := bind_eq_ok.1 h
  obtain ⟨total, -, h⟩ := bind_eq_ok.1 h
  obtain ⟨hup, rfl⟩ := ask_eq_ok.1 hjobs
  cases h
  obtain ⟨job, hjob, rfl⟩ := mem_entitiesIn_paged hmem
  obtain ⟨name, hname, rfl⟩ := List.mem_map.1 hjob
  exact ⟨hup, _, .summary (hasJob_of_mem_jobNames (mem_of_mem_window hname))⟩

theorem tells_jobDetail {job : List Char} (h : jobDetail g job q = .ok doc)
    (hmem : entity ∈ entitiesIn doc) : Tells g entity := by
  unfold jobDetail at h
  obtain ⟨job, -, h⟩ := bind_eq_ok.1 h
  obtain ⟨start, -, h⟩ := bind_eq_ok.1 h
  obtain ⟨size, -, h⟩ := bind_eq_ok.1 h
  dsimp only at h
  split at h
  · cases h
  · obtain ⟨detail, hdetail, h⟩ := bind_eq_ok.1 h
    obtain ⟨hup, hdetail⟩ := tryAsk_eq_ok.1 hdetail
    cases h
    unfold JobDesk.detail at hdetail
    split at hdetail
    · rename_i hjob
      obtain ⟨instances, -, hdetail⟩ := bind_eq_ok.1 hdetail
      cases hdetail
      rw [List.mem_singleton.1 hmem]
      exact ⟨hup, _, .detail hjob instances⟩
    · cases hdetail

-- ================================================================ instances

theorem tells_listInstances (hn : g.engine.Numbered)
    (h : listInstances g q = .ok doc)
    (hmem : entity ∈ entitiesIn doc) : Tells g entity := by
  unfold listInstances at h
  obtain ⟨job, -, h⟩ := bind_eq_ok.1 h
  obtain ⟨⟨page, size⟩, -, h⟩ := bind_eq_ok.1 h
  cases job with
  | none => cases h
  | some job =>
      obtain ⟨r, -, h⟩ := bind_eq_ok.1 h
      obtain ⟨instances, hinstances, h⟩ := bind_eq_ok.1 h
      obtain ⟨total, -, h⟩ := bind_eq_ok.1 h
      obtain ⟨hup, hinstances⟩ := tryAsk_eq_ok.1 hinstances
      rw [Listing.instances_eq hn] at hinstances
      cases hinstances
      cases h
      obtain ⟨report, hreport, rfl⟩ := mem_entitiesIn_paged hmem
      obtain ⟨i, hi, rfl⟩ := List.mem_map.1 (mem_of_mem_window hreport)
      exact ⟨hup, _, .jobInstance
        (List.mem_of_mem_filter (List.mem_reverse.1 hi))⟩

theorem tells_findInstance (hn : g.engine.Numbered) {id : List Char}
    (h : findInstance g id = .ok doc)
    (hmem : entity ∈ entitiesIn doc) : Tells g entity := by
  unfold findInstance at h
  obtain ⟨id, -, h⟩ := bind_eq_ok.1 h
  obtain ⟨report, hreport, h⟩ := bind_eq_ok.1 h
  obtain ⟨hup, hreport⟩ := tryAsk_eq_ok.1 hreport
  cases h
  unfold JobDesk.findInstance at hreport
  obtain ⟨i, hi, hreport⟩ := bind_eq_ok.1 hreport
  unfold Engine.findInstance at hi
  split at hi
  · rename_i j hfind
    cases hi
    have hmemi := List.mem_of_find?_eq_some hfind
    unfold JobDesk.report at hreport
    rw [hn.newestAttempts hmemi] at hreport
    cases hreport
    rw [List.mem_singleton.1 hmem]
    exact ⟨hup, _, .jobInstance hmemi⟩
  · cases hi

-- =============================================================== executions

theorem carries_reports {es : List Execution}
    (hes : ∀ e ∈ es, e ∈ g.engine.executions) {report : ExecutionReport}
    (h : report ∈ JobDesk.reports g.now es) :
    ∃ key, Carries g key (linked (linkRoute g "/executions") report) := by
  obtain ⟨e, he, rfl⟩ := List.mem_map.1 h
  exact ⟨_, .execution (hes e he)⟩

theorem mem_of_mem_newestAttempts {job : String} {id : Int}
    {es : List Execution} (h : g.engine.newestAttempts job id = .ok es) :
    ∀ e ∈ es, e ∈ g.engine.executions := by
  unfold Engine.newestAttempts at h
  split at h
  · split at h
    · cases h
      exact fun e he => List.mem_of_mem_filter (List.mem_reverse.1 he)
    · cases h
  · cases h

theorem tells_pageExecutions {job : Option String} {r : PageRequest}
    (h : pageExecutions g job r = .ok doc)
    (hmem : entity ∈ entitiesIn doc) : Tells g entity := by
  unfold pageExecutions at h
  cases job with
  | none =>
      obtain ⟨es, hes, h⟩ := bind_eq_ok.1 h
      obtain ⟨total, -, h⟩ := bind_eq_ok.1 h
      obtain ⟨hup, rfl⟩ := ask_eq_ok.1 hes
      cases h
      obtain ⟨report, hreport, rfl⟩ := mem_entitiesIn_paged hmem
      refine ⟨hup, carries_reports (fun e he => ?_) hreport⟩
      exact List.mem_reverse.1 (mem_of_mem_window he)
  | some job =>
      obtain ⟨es, hes, h⟩ := bind_eq_ok.1 h
      obtain ⟨total, -, h⟩ := bind_eq_ok.1 h
      obtain ⟨hup, rfl⟩ := ask_eq_ok.1 hes
      cases h
      obtain ⟨report, hreport, rfl⟩ := mem_entitiesIn_paged hmem
      refine ⟨hup, carries_reports (fun e he => ?_) hreport⟩
      exact List.mem_of_mem_filter
        (List.mem_reverse.1 (mem_of_mem_window he))

theorem tells_listExecutions (h : listExecutions g q = .ok doc)
    (hmem : entity ∈ entitiesIn doc) : Tells g entity := by
  unfold listExecutions at h
  obtain ⟨job, -, h⟩ := bind_eq_ok.1 h
  obtain ⟨id, -, h⟩ := bind_eq_ok.1 h
  obtain ⟨⟨page, size⟩, -, h⟩ := bind_eq_ok.1 h
  cases id with
  | none =>
      obtain ⟨r, -, h⟩ := bind_eq_ok.1 h
      exact tells_pageExecutions h hmem
  | some id =>
      obtain ⟨reports, hreports, h⟩ := bind_eq_ok.1 h
      obtain ⟨hup, hreports⟩ := tryAsk_eq_ok.1 hreports
      cases h
      unfold JobDesk.executionsOfInstance at hreports
      obtain ⟨job, -, hreports⟩ := bind_eq_ok.1 hreports
      obtain ⟨es, hes, hreports⟩ := bind_eq_ok.1 hreports
      cases hreports
      rw [entitiesIn_list] at hmem
      obtain ⟨report, hreport, rfl⟩ := List.mem_map.1 hmem
      exact ⟨hup, carries_reports (mem_of_mem_newestAttempts hes) hreport⟩

/-- An execution is no page, whether it has ended or not. -/
theorem entitiesIn_execution (route : String) (report : ExecutionReport) :
    entitiesIn (linked route report) = [linked route report] := by
  obtain ⟨id, job, instanceId, parameters, status, running, startTime,
    endTime, lastUpdated, exit, stepCount, duration⟩ := report
  cases exit <;> rfl

theorem tells_findExecution {id : List Char}
    (h : findExecution g id = .ok doc)
    (hmem : entity ∈ entitiesIn doc) : Tells g entity := by
  unfold findExecution at h
  obtain ⟨id, -, h⟩ := bind_eq_ok.1 h
  obtain ⟨report, hreport, h⟩ := bind_eq_ok.1 h
  obtain ⟨hup, hreport⟩ := tryAsk_eq_ok.1 hreport
  cases h
  unfold JobDesk.findExecution at hreport
  obtain ⟨e, he, hreport⟩ := bind_eq_ok.1 hreport
  cases hreport
  unfold Engine.findExecution at he
  split at he
  · rename_i hfind
    cases he
    rw [entitiesIn_execution, List.mem_singleton] at hmem
    rw [hmem]
    exact ⟨hup, _, .execution (List.mem_of_find?_eq_some hfind)⟩
  · cases he

-- ==================================================================== steps

theorem tells_listSteps {id : List Char} (h : listSteps g id = .ok doc)
    (hmem : entity ∈ entitiesIn doc) : Tells g entity := by
  unfold listSteps at h
  obtain ⟨id, -, h⟩ := bind_eq_ok.1 h
  obtain ⟨reports, hreports, h⟩ := bind_eq_ok.1 h
  obtain ⟨hup, hreports⟩ := tryAsk_eq_ok.1 hreports
  cases h
  unfold JobDesk.steps at hreports
  obtain ⟨steps, hsteps, hreports⟩ := bind_eq_ok.1 hreports
  cases hreports
  rw [entitiesIn_list] at hmem
  obtain ⟨report, hreport, rfl⟩ := List.mem_map.1 hmem
  obtain ⟨s, hs, rfl⟩ := List.mem_map.1 hreport
  unfold Engine.stepsOf at hsteps
  split at hsteps
  · rename_i hfind
    cases hsteps
    exact ⟨hup, _, .step (List.mem_of_find?_eq_some hfind) hs⟩
  · cases hsteps

theorem tells_findStep {id step : List Char}
    (h : findStep g id step = .ok doc)
    (hmem : entity ∈ entitiesIn doc) : Tells g entity := by
  unfold findStep at h
  obtain ⟨id, -, h⟩ := bind_eq_ok.1 h
  obtain ⟨step, -, h⟩ := bind_eq_ok.1 h
  obtain ⟨report, hreport, h⟩ := bind_eq_ok.1 h
  obtain ⟨hup, hreport⟩ := tryAsk_eq_ok.1 hreport
  cases h
  unfold JobDesk.findStep at hreport
  obtain ⟨s, hs, hreport⟩ := bind_eq_ok.1 hreport
  cases hreport
  unfold Engine.findStep at hs
  split at hs
  · rename_i hfind
    cases hs
    obtain ⟨e, he, hstep⟩ := Option.bind_eq_some_iff.1 hfind
    rw [List.mem_singleton.1 hmem]
    exact ⟨hup, _, .step (List.mem_of_find?_eq_some he)
      (List.mem_of_find?_eq_some hstep)⟩
  · cases hs

-- ================================================================= requests

/-- The route is answered with entities of the engine. -/
def Route.servesEntities : Route → Bool
  | .configurations | .configuration _ | .instances | .instanceAt _
  | .executions | .executionAt _ | .steps _ | .stepAt _ _ => true
  | .files | .filesAt _ | .progress _ _ | .health => false

/-- An answer with a document was one. -/
theorem ofAnswer_eq_document {answer : Answer Json}
    (h : Response.ofAnswer 200 answer = .document 200 doc) :
    answer = .ok doc := by
  cases answer with
  | ok told =>
      cases h
      rfl
  | error failure =>
      have hstatus : Response.statusOf failure = 200 :=
        congrArg Response.status h
      unfold Response.statusOf at hstatus
      split at hstatus <;> try split at hstatus
      all_goals cases hstatus

/-- What a route of entities answers to a GET. -/
theorem tells_of_answerRoute (hn : g.engine.Numbered) {route : Route}
    (hserves : route.servesEntities = true) {r : Request}
    (h : (answerRoute g route "GET" q r).1 = .document 200 doc)
    (hmem : entity ∈ entitiesIn doc) : Tells g entity := by
  cases route with
  | configurations => exact tells_listJobs (ofAnswer_eq_document h) hmem
  | configuration job =>
      exact tells_jobDetail (ofAnswer_eq_document h) hmem
  | instances =>
      exact tells_listInstances hn (ofAnswer_eq_document h) hmem
  | instanceAt id =>
      exact tells_findInstance hn (ofAnswer_eq_document h) hmem
  | executions => exact tells_listExecutions (ofAnswer_eq_document h) hmem
  | executionAt id =>
      exact tells_findExecution (ofAnswer_eq_document h) hmem
  | steps id => exact tells_listSteps (ofAnswer_eq_document h) hmem
  | stepAt id step => exact tells_findStep (ofAnswer_eq_document h) hmem
  | files => cases hserves
  | filesAt path => cases hserves
  | progress id step => cases hserves
  | health => cases hserves

end BatchAdmin.Web
