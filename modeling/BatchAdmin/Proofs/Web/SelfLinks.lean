/-
Links of entities to themselves.

The link of an entity is its key, written as segments behind the base path
(`selfSegments`). No character of a segment separates segments, a path from
its query or an escape from what follows it, so the segments are what a
request for the link is routed by (`handle_self`), and the key is what the
handler reads out of them (`Carries.routed`). What is found under the key is
the entity, since no other has its id: `self_leads_back`.
-/
import BatchAdmin.Proofs.Engine.Range
import BatchAdmin.Proofs.Text.Numerals
import BatchAdmin.Proofs.Web.Entities
import BatchAdmin.Proofs.Web.Targets

namespace BatchAdmin.Web

open Text

variable {g : Gateway} {doc entity : Json} {key : ResourceId}

-- ============================================================== the segments

/-- The segments of the link of an entity. -/
def selfSegments : ResourceId → List (List Char)
  | .file path =>
      "files".toList :: (pieces (· == '/') path.toList).map pathSegment
  | .job name => ["configurations".toList, pathSegment name.toList]
  | .jobInstance id => ["instances".toList, writeInt id]
  | .execution id => ["executions".toList, writeInt id]
  | .step owner id =>
      ["executions".toList, writeInt owner, "steps".toList, writeInt id]

/-- The path of the link. -/
def selfPath (key : ResourceId) : List Char :=
  joined ['/'] ([] :: selfSegments key)

theorem isWritten_of_mem_writeInt {n : Int} :
    ∀ c ∈ writeInt n, isWritten c = true := by
  intro c hc
  rcases mem_writeInt hc with rfl | hdigit
  · rfl
  · unfold isWritten Char.isAlphanum
    rw [hdigit, Bool.or_true]
    rfl

/-- Segments are written without anything that has a meaning in paths. -/
theorem isWritten_of_mem_selfSegments (key : ResourceId) :
    ∀ segment ∈ selfSegments key, ∀ c ∈ segment, isWritten c = true := by
  have hall : ∀ word ∈ ["files", "configurations", "instances",
      "executions", "steps"], word.toList.all isWritten = true := by decide
  have hwords (word : String) (h : word ∈ ["files", "configurations",
      "instances", "executions", "steps"]) :
      ∀ c ∈ word.toList, isWritten c = true :=
    List.all_eq_true.1 (hall word h)
  cases key with
  | file path =>
      refine List.forall_mem_cons.2 ⟨hwords _ (by simp), ?_⟩
      exact List.forall_mem_map.2 fun _ _ _ => isWritten_of_mem_pathSegment
  | job name =>
      refine List.forall_mem_cons.2 ⟨hwords _ (by simp), ?_⟩
      exact List.forall_mem_singleton.2 fun _ => isWritten_of_mem_pathSegment
  | jobInstance id =>
      refine List.forall_mem_cons.2 ⟨hwords _ (by simp), ?_⟩
      exact List.forall_mem_singleton.2 isWritten_of_mem_writeInt
  | execution id =>
      refine List.forall_mem_cons.2 ⟨hwords _ (by simp), ?_⟩
      exact List.forall_mem_singleton.2 isWritten_of_mem_writeInt
  | step owner id =>
      refine List.forall_mem_cons.2 ⟨hwords _ (by simp), ?_⟩
      refine List.forall_mem_cons.2 ⟨isWritten_of_mem_writeInt, ?_⟩
      refine List.forall_mem_cons.2 ⟨hwords _ (by simp), ?_⟩
      exact List.forall_mem_singleton.2 isWritten_of_mem_writeInt

/-- What is written without a separator is cut where it was joined. -/
theorem segments_selfPath (key : ResourceId) :
    Route.segments (selfPath key) = [] :: selfSegments key := by
  refine pieces_joined ?_ (List.cons_ne_nil _ _)
  intro segment hsegment hmem
  rcases List.mem_cons.1 hsegment with rfl | hsegment
  · cases hmem
  · cases isWritten_of_mem_selfSegments key _ hsegment _ hmem

theorem not_mem_selfPath {c : Char} (hslash : c ≠ '/')
    (hc : isWritten c = false) : c ∉ selfPath key := by
  refine not_mem_joined (by simpa using hslash) fun segment hsegment => ?_
  rcases List.mem_cons.1 hsegment with rfl | hsegment
  · exact List.not_mem_nil
  · intro hmem
    rw [isWritten_of_mem_selfSegments key _ hsegment _ hmem] at hc
    cases hc

-- ================================================================= the links

/-- The link to a record of the engine. -/
def selfUri (g : Gateway) (key : ResourceId) : String :=
  String.ofList (basePath g ++ selfPath key)

/-- A route that does not end with a slash is bare. -/
theorem bareRoute_concat {front : List Char} {c : Char} (hc : c ≠ '/') :
    bareRoute (front ++ [c]) = front ++ [c] := by
  unfold bareRoute
  rw [List.reverse_append, List.reverse_singleton, List.singleton_append,
    List.dropWhile_cons_of_neg (by simpa using hc), List.reverse_cons,
    List.reverse_reverse]

section Linked

variable {α : Type} [Addressed α] {x : α}

/-- The link that an entity is told with leads to the path of its key. -/
theorem hrefOf?_linked {path : String} {front : List Char} {c : Char}
    {fields : List (String × Json)}
    (hfields : Addressed.toJson x = .object fields)
    (hpath : path.toList = front ++ [c]) (hc : c ≠ '/')
    (hkey : path.toList ++ '/' :: (Addressed.resourceId x).path
      = selfPath key) :
    hrefOf? "self" (linked (linkRoute g path) x) = some (selfUri g key) := by
  have hbare : bareRoute (basePath g ++ path.toList)
      = basePath g ++ path.toList := by
    rw [hpath, ← List.append_assoc]
    exact bareRoute_concat hc
  have hhref : selfHref (linkRoute g path) x = selfUri g key := by
    unfold selfHref linkRoute selfUri
    rw [String.toList_ofList, hbare, List.append_assoc, hkey]
  unfold linked hrefOf?
  rw [hfields]
  unfold Json.extended
  dsimp only
  rw [linksOf_concat, ← hhref]
  rfl

end Linked

/-- An entity is told with the link to its record. -/
theorem Carries.self (h : Carries g key entity) :
    hrefOf? "self" entity = some (selfUri g key) := by
  have hconfigurations : "/configurations".toList
      = "/configuration".toList ++ ['s'] := by decide
  have hinstances : "/instances".toList = "/instance".toList ++ ['s'] := by
    decide
  have hexecutions : "/executions".toList
      = "/execution".toList ++ ['s'] := by decide
  have hjobPath (job : String) : "/configurations".toList
      ++ '/' :: (ResourceId.job job).path = selfPath (.job job) := by
    simp [selfPath, selfSegments, joined, List.intercalate, ResourceId.path]
  cases h with
  | @summary job hjob =>
      exact hrefOf?_linked rfl hconfigurations (by decide) (hjobPath job)
  | @detail job hjob instances =>
      exact hrefOf?_linked rfl hconfigurations (by decide) (hjobPath job)
  | jobInstance hi =>
      refine hrefOf?_linked rfl hinstances (by decide) ?_
      simp [selfPath, selfSegments, joined, List.intercalate,
        Addressed.resourceId, ResourceId.path, InstanceReport.of]
  | execution he =>
      refine hrefOf?_linked rfl hexecutions (by decide) ?_
      simp [selfPath, selfSegments, joined, List.intercalate,
        Addressed.resourceId, ResourceId.path, ExecutionReport.of]
  | step he hs =>
      refine hrefOf?_linked rfl hexecutions (by decide) ?_
      simp [selfPath, selfSegments, joined, List.intercalate,
        Addressed.resourceId, ResourceId.path, StepReport.of]

-- =============================================================== the routing

/-- The key that the handler of a detail reads out of its route. -/
def Route.key? : Route → Option ResourceId
  | .configuration job => (textParameter job).toOption.map .job
  | .instanceAt id => (numberParameter id).toOption.map .jobInstance
  | .executionAt id => (numberParameter id).toOption.map .execution
  | .stepAt owner id =>
      match numberParameter owner, numberParameter id with
      | .ok owner, .ok id => some (.step owner id)
      | _, _ => none
  | _ => none

theorem textParameter_pathSegment (name : String) :
    Route.textParameter (pathSegment name.toList) = .ok name := by
  unfold Route.textParameter
  rw [readSegment_pathSegment]
  exact congrArg Except.ok String.ofList_toList

theorem numberParameter_writeInt {id : Int} (h : Engine.InRange id) :
    Route.numberParameter (writeInt id) = .ok id := by
  unfold Route.numberParameter
  rw [readSegment_writeInt, Option.bind_some, readInt64_writeInt h.1 h.2]

theorem pathSegment_ne_nil {s : List Char} (hs : s ≠ []) :
    pathSegment s ≠ [] := by
  intro hnil
  have hread := readSegment_pathSegment s
  rw [hnil] at hread
  exact hs (Option.some.inj hread).symm

theorem writeInt_ne_nil (id : Int) : writeInt id ≠ [] := by
  intro hnil
  have hread := readSigned_writeInt id
  rw [hnil] at hread
  cases hread

theorem ending_eq {route : List Char → Route} {last : List Char}
    (h : last ≠ []) : Route.ending route last = some (route last) := by
  unfold Route.ending
  rw [if_neg (by simpa using h)]

/-- The link to a record is routed by its segments. -/
theorem find?_self (h : PlainBase (basePath g)) {route : Route}
    (hroute : Route.ofSegments (selfSegments key) = some route) :
    readTarget (selfUri g key) = (basePath g ++ selfPath key, [])
      ∧ Route.find? (BasePath.ofText (basePath g))
          (readTarget (selfUri g key)).1 = some route := by
  have hhead : (basePath g ++ selfPath key).head? = some '/' := by
    refine h.head? ?_
    unfold selfPath
    cases hsegments : selfSegments key with
    | nil =>
        rw [hsegments] at hroute
        cases hroute
    | cons segment rest => rfl
  have htarget : readTarget (selfUri g key)
      = (basePath g ++ selfPath key, []) := by
    refine readTarget_path hhead ?_ ?_
    · rw [List.mem_append, not_or]
      exact ⟨h.not_mem (by decide) (by decide),
        not_mem_selfPath (by decide) (by decide)⟩
    · rw [List.mem_append, not_or]
      exact ⟨h.not_mem (by decide) (by decide),
        not_mem_selfPath (by decide) (by decide)⟩
  refine ⟨htarget, ?_⟩
  rw [htarget, find?_behind h (segments_selfPath key), hroute]

/-- A GET of it is answered by the handler of the route. -/
theorem handle_self (h : PlainBase (basePath g)) {route : Route}
    (hroute : Route.ofSegments (selfSegments key) = some route)
    (hget : route.allowed.contains "GET" = true) :
    Route.find? (BasePath.ofText (basePath g))
        (readTarget (selfUri g key)).1 = some route
      ∧ handle g (get (selfUri g key))
        = answerRoute g route "GET" [] (get (selfUri g key)) := by
  obtain ⟨htarget, hfind⟩ := find?_self h hroute
  exact ⟨hfind, handle_get h htarget (segments_selfPath key) hroute hget⟩

-- =============================================================== the details

/-- The segments of a record's link are routed to the handler of its details,
which reads the key and tells this document. -/
def Leads (g : Gateway) (key : ResourceId) (told : Json) : Prop :=
  ∃ route answer, Route.ofSegments (selfSegments key) = some route
    ∧ route.key? = some key
    ∧ route.allowed.contains "GET" = true
    ∧ (∀ r, answerRoute g route "GET" [] r = (.ofAnswer 200 answer, g))
    ∧ answer = .ok told

section Leads

variable (hup : g.outages.engineDown = false)

include hup

/-- A job is told with the first of its instances. -/
theorem leads_job (hn : g.engine.Numbered)
    (hsize : 0 < g.settings.http.defaultPageSize) {job : String}
    (hjob : g.engine.hasJob job = true) (hname : job ≠ "") :
    Leads g (.job job) (linked (linkRoute g "/configurations")
      ({ summary := JobDesk.summary g.engine g.now job
         instances := Engine.window 0 g.settings.http.defaultPageSize
          (Listing.instanceReports g job) } : JobDetail)) := by
  have hsegment : pathSegment job.toList ≠ [] :=
    pathSegment_ne_nil fun h => hname (String.toList_eq_nil_iff.1 h)
  refine ⟨_, _, ending_eq hsegment, ?_, rfl, fun _ => rfl, ?_⟩
  · unfold Route.key?
    dsimp only
    rw [textParameter_pathSegment]
    rfl
  · have hdetail (offset limit : Nat) :
        JobDesk.detail g.engine g.now job offset limit
          = .ok { summary := JobDesk.summary g.engine g.now job
                  instances := Engine.window offset limit
                    (Listing.instanceReports g job) } := by
      unfold JobDesk.detail
      rw [if_pos hjob, Listing.instances_eq hn]
      rfl
    have hstart : Query.number [] "startJobInstance" = .ok none := rfl
    have hwindow : Query.number [] "pageSize" = .ok none := rfl
    unfold jobDetail
    rw [textParameter_pathSegment]
    simp only [bind, Except.bind, hstart, hwindow, Option.getD_none,
      Listing.tryAsk_eq hup, hdetail]
    rw [if_neg (by omega)]
    rfl

theorem leads_instance (hn : g.engine.Numbered) {i : JobInstance}
    (hi : i ∈ g.engine.instances) (hid : Engine.InRange i.id) :
    Leads g (.jobInstance i.id) (linked (linkRoute g "/instances")
      (InstanceReport.of g.now i (g.engine.attemptsOf i.id).reverse)) := by
  refine ⟨_, _, ending_eq (writeInt_ne_nil i.id), ?_, rfl, fun _ => rfl, ?_⟩
  · unfold Route.key?
    dsimp only
    rw [numberParameter_writeInt hid]
    rfl
  · have hreport : JobDesk.findInstance g.engine g.now i.id
        = .ok (.of g.now i (g.engine.attemptsOf i.id).reverse) := by
      unfold JobDesk.findInstance Engine.findInstance
      rw [Engine.instance?_of_mem (Engine.nodup_of_rising hn.instances) hi]
      dsimp only [bind, Except.bind]
      unfold JobDesk.report
      rw [hn.newestAttempts hi]
    unfold findInstance
    rw [numberParameter_writeInt hid]
    simp only [bind, Except.bind, Listing.tryAsk_eq hup, hreport]
    rfl

theorem leads_execution (hn : g.engine.Numbered) {e : Execution}
    (he : e ∈ g.engine.executions) (hid : Engine.InRange e.id) :
    Leads g (.execution e.id) (linked (linkRoute g "/executions")
      (ExecutionReport.of g.now e)) := by
  refine ⟨_, _, ending_eq (writeInt_ne_nil e.id), ?_, rfl, fun _ => rfl, ?_⟩
  · unfold Route.key?
    dsimp only
    rw [numberParameter_writeInt hid]
    rfl
  · have hreport : JobDesk.findExecution g.engine g.now e.id
        = .ok (.of g.now e) := by
      unfold JobDesk.findExecution Engine.findExecution
      rw [hn.find he]
      rfl
    unfold findExecution
    rw [numberParameter_writeInt hid]
    simp only [bind, Except.bind, Listing.tryAsk_eq hup, hreport]
    rfl

/-- A step is found at the execution that it names. -/
theorem leads_step (hn : g.engine.Numbered) (ht : g.engine.Tied)
    {e : Execution} (he : e ∈ g.engine.executions) {s : StepExecution}
    (hs : s ∈ e.steps) (hid : Engine.InRange e.id)
    (hstep : Engine.InRange s.id) :
    Leads g (.step s.executionId s.id) (linked (linkRoute g "/executions")
      (StepReport.of g.now s)) := by
  have howner : s.executionId = e.id := ht.holds e he s hs
  rw [howner]
  refine ⟨_, _, ending_eq (writeInt_ne_nil s.id), ?_, rfl, fun _ => rfl, ?_⟩
  · unfold Route.key?
    dsimp only
    rw [numberParameter_writeInt hid, numberParameter_writeInt hstep]
  · have hreport : JobDesk.findStep g.engine g.now e.id s.id
        = .ok (.of g.now s) := by
      unfold JobDesk.findStep Engine.findStep
      rw [hn.find he, Option.bind_some,
        Engine.step?_of_mem (Engine.nodup_of_rising (hn.steps e he)) hs]
      rfl
    unfold findStep
    rw [numberParameter_writeInt hid, numberParameter_writeInt hstep]
    simp only [bind, Except.bind, Listing.tryAsk_eq hup, hreport]
    rfl

end Leads

-- ============================================================ the entities

/-- The document tells of the same entity: it is the same document, but for
the instances in the details of a job. -/
def Same (key : ResourceId) (entity told : Json) : Prop :=
  match key with
  | .job _ => (∃ instances, told.field? "jobInstances" = some (.list instances))
      ∧ ∀ name ≠ "jobInstances", told.field? name = entity.field? name
  | _ => told = entity

/-- A summary of a job and its details have the same fields, but for the
instances. -/
theorem field?_detail {route : String} (summary : JobSummary)
    (instances : List InstanceReport) {name : String}
    (hname : name ≠ "jobInstances") :
    (linked route ({ summary, instances } : JobDetail)).field? name
      = (linked route summary).field? name := by
  have hhref : selfLink route ({ summary, instances } : JobDetail)
      = selfLink route summary := rfl
  have hdetail : linked route ({ summary, instances } : JobDetail)
      = .object (summary.fields ++ [("jobInstances",
          .list (instances.map (·.toJson)))]
        ++ [("links", Link.listJson [selfLink route summary])]) := rfl
  have hsummary : linked route summary = .object (summary.fields
      ++ [("links", Link.listJson [selfLink route summary])]) := rfl
  rw [hdetail, hsummary]
  by_cases hlinks : "links" = name
  · subst hlinks
    rw [field?_concat, field?_concat]
  · rw [field?_concat_of_ne _ hlinks, field?_concat_of_ne _ hlinks,
      field?_concat_of_ne _ (Ne.symm hname)]

/-- What a record's link leads to is the entity. -/
theorem Carries.leads (h : Carries g key entity) (hkey : key ≠ .job "")
    (hup : g.outages.engineDown = false)
    (hsize : 0 < g.settings.http.defaultPageSize)
    (hn : g.engine.Numbered) (ht : g.engine.Tied) (hc : g.engine.Counted)
    (hs : g.engine.Short) :
    ∃ told, Leads g key told ∧ Same key entity told := by
  cases h with
  | @summary job hjob =>
      have hname : job ≠ "" := fun h => hkey (congrArg ResourceId.job h)
      exact ⟨_, leads_job hup hn hsize hjob hname, ⟨_, rfl⟩,
        fun _ hname => field?_detail _ _ hname⟩
  | @detail job hjob instances =>
      have hname : job ≠ "" := fun h => hkey (congrArg ResourceId.job h)
      refine ⟨_, leads_job hup hn hsize hjob hname, ⟨_, rfl⟩,
        fun name hname => ?_⟩
      rw [field?_detail _ _ hname, field?_detail _ _ hname]
  | jobInstance hi =>
      exact ⟨_, leads_instance hup hn hi (Engine.inRange_instance hn hc hs hi),
        rfl⟩
  | execution he =>
      exact ⟨_, leads_execution hup hn he
        (Engine.inRange_execution hn hc hs he), rfl⟩
  | step he hstep =>
      exact ⟨_, leads_step hup hn ht he hstep
        (Engine.inRange_execution hn hc hs he)
        (Engine.inRange_step hn hc hs he hstep), rfl⟩

/-- In every state of the engine, behind every plain base path: each entity
that the answer to a GET carries is of a record that the engine keeps, and
is told with a link. If it is not a job without a name, a GET of the link is
routed to the handler of the entity's details, which reads the key of the
record out of the path, and it is answered with the entity: with the same
document, or with the details of a job, which has nothing but the instances
besides the same summary. -/
theorem self_leads_back {definitions : List JobDefinition}
    {pace : Option Nat} {turns : List Engine.Turn}
    (hreach : g.engine = (Engine.fresh definitions pace).play turns)
    (hsettings : g.settings.fault? = none)
    (hbase : PlainBase (basePath g)) (hshort : g.engine.Short)
    {r : Request} {route : Route} (hmethod : r.method = "GET")
    (hroute : Route.find? (BasePath.ofText (basePath g))
      (readTarget r.uri).1 = some route)
    (hserves : route.servesEntities = true)
    (hdoc : (handle g r).1 = .document 200 doc) :
    ∀ entity ∈ entitiesIn doc, ∃ key href,
      Carries g key entity ∧ hrefOf? "self" entity = some href
        ∧ (key ≠ .job "" →
          (∃ details, Route.find? (BasePath.ofText (basePath g))
              (readTarget href).1 = some details
            ∧ details.key? = some key)
          ∧ ∃ told, handle g (get href) = (.document 200 told, g)
            ∧ Same key entity told) := by
  intro entity hmem
  have hn : g.engine.Numbered := hreach ▸ Engine.numbered_play _ _ _
  have ht : g.engine.Tied := hreach ▸ (Engine.tied_fresh _ _).play
    (Engine.numbered_fresh _ _) turns
  have hc : g.engine.Counted := hreach ▸ Engine.counted_play _ _ _
  have hsize : 0 < g.settings.http.defaultPageSize := by
    refine Nat.pos_of_ne_zero fun hzero => ?_
    unfold Settings.fault? at hsettings
    rw [if_pos hzero] at hsettings
    cases hsettings
  have hget : route.allowed.contains "GET" = true := by
    cases route <;> first | rfl | cases hserves
  rw [handle_routed hbase hmethod hroute hget] at hdoc
  -- That there is an answer shows that the engine is within reach.
  obtain ⟨hup, key, hcarries⟩ := tells_of_answerRoute hn hserves hdoc hmem
  refine ⟨key, selfUri g key, hcarries, hcarries.self, fun hkey => ?_⟩
  obtain ⟨told, ⟨details, answer, hsegments, hread, hallowed, hhandler,
    hanswer⟩, hsame⟩ := hcarries.leads hkey hup hsize hn ht hc hshort
  obtain ⟨hfind, hhandle⟩ := handle_self hbase hsegments hallowed
  refine ⟨⟨details, hfind, hread⟩, told, ?_, hsame⟩
  rw [hhandle, hhandler, hanswer]
  rfl

-- ----------------------------------------------------------- a job on sale

/-- A gateway behind a base path with a job whose name has to be escaped;
the job has been launched once. -/
def sale : Gateway :=
  let job : JobDefinition := { name := "50% off? a/b" }
  let http := { Settings.default.http with basePath := "/api/v1/" }
  let g := Gateway.fresh { Settings.default with jobs := [job], http } ⟨0, 0⟩
  { g with engine := g.engine.play [⟨.launch job.name .empty, 0, 0⟩] }

/-- Where the job is found. -/
def saleUri : String := "/api/v1/configurations/50%25%20off%3F%20a%2Fb"

/-- The link of the job leads back to it. -/
theorem saleUri_leads_back :
    ∃ doc key, (handle sale (get saleUri)).1 = .document 200 doc
      ∧ hrefOf? "self" doc = some saleUri
      ∧ ∃ told, handle sale (get saleUri) = (.document 200 told, sale)
        ∧ Same key doc told := by
  have hbase : PlainBase (basePath sale) :=
    ⟨["api".toList, "v1".toList], by decide, by decide⟩
  have hshort : sale.engine.Short := ⟨by decide, by decide, by decide⟩
  have hfind : Route.find? (BasePath.ofText (basePath sale))
      (readTarget (get saleUri).uri).1
        = some (.configuration "50%25%20off%3F%20a%2Fb".toList) := by decide
  have hanswer : ∃ doc, (handle sale (get saleUri)).1 = .document 200 doc
      ∧ hrefOf? "self" doc = some saleUri ∧ entitiesIn doc = [doc] :=
    ⟨_, rfl, rfl, rfl⟩
  obtain ⟨doc, hdoc, hhref, hentities⟩ := hanswer
  obtain ⟨key, href, hcarries, hself, hback⟩ := self_leads_back rfl rfl hbase
    hshort rfl hfind rfl hdoc doc (by simp [hentities])
  have hkey : key ≠ .job "" := by
    rintro rfl
    exact absurd (hcarries.self.symm.trans hhref) (by decide)
  cases hself.symm.trans hhref
  exact ⟨doc, key, hdoc, hhref, (hback hkey).2⟩

end BatchAdmin.Web
