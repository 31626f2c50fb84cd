/-
Listings: what there is to list, and the pages of it.

There are five of them (`Listing`), and each is asked for by its path with a
query. What a listing lists is fixed by the state (`items`), and so is its
order (`Ordered`). A query that means the listing is answered with one page
of it (`answer_eq`): with the window that the page has on all items, with
the number of them all, and with links that carry the filter and the size.
That is the only thing shown of the handlers; what a client makes of the
pages is shown from it.
-/
import BatchAdmin.Web.Handlers
import BatchAdmin.Proofs.JobDesk.Reports
import BatchAdmin.Proofs.Staging.Listing

namespace BatchAdmin

open Text

namespace Web

-- ============================================================== the listings

/-- What clients can ask to be listed page by page. -/
inductive Listing where
  | files
  | jobs
  | instances (job : String)
  | executions
  | executionsOf (job : String)

namespace Listing

variable {g : Gateway} {l : Listing} {q : Query} {page size : Nat}

/-- The path of a listing behind the base path. -/
def path : Listing → String
  | .files => "/files"
  | .jobs => "/configurations"
  | .instances _ => "/instances"
  | .executions | .executionsOf _ => "/executions"

/-- The filter of a listing, as its links carry it. -/
def filters : Listing → Filters
  | .files | .jobs | .executions => []
  | .instances job | .executionsOf job => [("jobname", job)]

/-- What is answered when the listing is asked for. -/
def answer (g : Gateway) (q : Query) : Listing → Answer Json
  | .files => listFiles g q
  | .jobs => listJobs g q
  | .instances _ => listInstances g q
  | .executions | .executionsOf _ => listExecutions g q

/-- The reports on the instances of a job. -/
def instanceReports (g : Gateway) (job : String) : List InstanceReport :=
  (g.engine.instancesOf job).map fun i =>
    .of g.now i (g.engine.attemptsOf i.id).reverse

/-- All that there is to list, in order, each with its link. -/
def items (g : Gateway) : Listing → List Json
  | .files =>
      (g.depot.area.files.map (Desk.info g.settings.deskRules)).map
        (linked (linkRoute g "/files"))
  | .jobs =>
      (g.engine.jobNames.map (JobDesk.summary g.engine g.now)).map
        (linked (linkRoute g "/configurations"))
  | .instances job =>
      (instanceReports g job).map (linked (linkRoute g "/instances"))
  | .executions =>
      (JobDesk.reports g.now g.engine.newest).map
        (linked (linkRoute g "/executions"))
  | .executionsOf job =>
      (JobDesk.reports g.now (g.engine.newestOf job)).map
        (linked (linkRoute g "/executions"))

/-- The order of a listing: files by path, jobs by name, instances and
executions strictly newest first. -/
def Ordered (g : Gateway) : Listing → Prop
  | .files =>
      g.depot.area.files.Pairwise fun a b => a.path.text ≤ b.path.text
  | .jobs => g.engine.jobNames.Pairwise (· < ·)
  | .instances job =>
      (g.engine.instancesOf job).Pairwise fun a b => b.id < a.id
  | .executions => g.engine.newest.Pairwise fun a b => b.id < a.id
  | .executionsOf job =>
      (g.engine.newestOf job).Pairwise fun a b => b.id < a.id

theorem ordered (hn : g.engine.Numbered) (l : Listing) : l.Ordered g := by
  cases l with
  | files => exact g.depot.area.sorted_files
  | jobs => exact g.engine.rising_jobNames
  | instances job => exact hn.instancesOf job
  | executions => exact hn.newest
  | executionsOf job => exact hn.newestOf job

/-- What the listing needs is within reach. -/
def Served (g : Gateway) : Listing → Prop
  | .files => g.outages.store.fails .list = false
  | _ => g.outages.engineDown = false

-- =============================================================== the queries

/-- The query is for this listing. -/
def Meant (q : Query) : Listing → Prop
  | .files | .jobs => True
  | .instances job => q.text "jobname" = .ok (some job)
  | .executions =>
      q.text "jobname" = .ok none ∧ q.number "jobinstanceid" = .ok none
  | .executionsOf job =>
      q.text "jobname" = .ok (some job)
        ∧ q.number "jobinstanceid" = .ok none

/-- The query asks for this page of the listing; a number or a size that it
does not give is the usual one. -/
structure Asks (l : Listing) (g : Gateway) (q : Query) (page size : Nat) :
    Prop where
  meant : l.Meant q
  page : ∃ p, q.number "page" = .ok p ∧ p.getD 0 = (page : Int)
  size : ∃ s, q.number "size" = .ok s
    ∧ s.getD (g.settings.http.defaultPageSize : Int) = (size : Int)

-- ================================================================= the pages

/-- How many pages a listing has. -/
def pages (l : Listing) (g : Gateway) (size : Nat) : Nat :=
  Page.pagesFor (l.items g).length size

/-- A page of the listing. -/
def pageAt (l : Listing) (g : Gateway) (size number : Nat) : Page Json :=
  { content := Page.windowOf (l.items g) size number, number, size
    totalElements := (l.items g).length, totalPages := l.pages g size }

/-- A page of the listing as a document. -/
def pageDoc (l : Listing) (g : Gateway) (size number : Nat) : Json :=
  let p := l.pageAt g size number
  .object (p.fields id
    ++ [("links", Link.listJson (p.links (linkRoute g l.path) l.filters))])

/-- A window of linked entities is a page of the listing. -/
private theorem paged_eq {α : Type} [Addressed α] {xs : List α}
    (r : PageRequest)
    (hitems : l.items g = xs.map (linked (linkRoute g l.path)))
    (hroom : xs.length ≤ maxWord) :
    paged g l.path l.filters r xs.length (Engine.window r.offset r.size xs)
      = l.pageDoc g r.size r.page := by
  have htake : (Engine.window r.offset r.size xs).take r.size
      = Page.windowOf xs r.size r.page := by
    unfold PageRequest.offset
    rw [Page.window_min hroom, Page.windowOf]
    unfold Engine.window
    rw [List.take_take, Nat.min_self]
  have hlength : (l.items g).length = xs.length := by
    rw [hitems, List.length_map]
  unfold paged pageDoc Page.linkedJson pageAt Page.ofRequest pages
  rw [htake, hlength, hitems, Page.windowOf_map]
  unfold Page.fields
  dsimp only
  rw [List.map_id]
  rfl

/-- What is asked for is a page. -/
theorem Asks.request (h : l.Asks g q page size) (hsize : 0 < size) :
    ∃ p s, q.number "page" = .ok p ∧ q.number "size" = .ok s
      ∧ pageRequest g p s = .ok ⟨page, size, hsize⟩ := by
  obtain ⟨p, hp, hpage⟩ := h.page
  obtain ⟨s, hs, hsizes⟩ := h.size
  refine ⟨p, s, hp, hs, ?_⟩
  unfold pageRequest PageRequest.read PageRequest.checkFrom
    PageRequest.checkSize
  rw [hpage, hsizes, if_neg (by omega), dif_pos (by omega)]
  rfl

-- =============================================================== the answers

/-- What is asked of an engine within reach is answered. -/
theorem ask_eq {α : Type} (hup : g.outages.engineDown = false)
    (question : Engine → Instant → α) :
    g.ask question = .ok (question g.engine g.now) := by
  unfold Gateway.ask
  rw [hup]
  rfl

theorem tryAsk_eq {α : Type} (hup : g.outages.engineDown = false)
    (question : Engine → Instant → Answer α) :
    g.tryAsk question = question g.engine g.now := by
  unfold Gateway.tryAsk
  rw [hup]
  rfl

/-- The executions of all instances of a window are found. -/
theorem instances_eq (hn : g.engine.Numbered) (job : String)
    (offset limit : Nat) :
    JobDesk.instances g.engine g.now job offset limit
      = .ok (Engine.window offset limit (instanceReports g job)) :=
  JobDesk.instances_eq hn job offset limit

theorem listFiles_eq (hup : g.outages.store.fails .list = false)
    (offset limit : Nat) :
    g.listFiles offset limit
      = .ok (Engine.window offset limit
          (g.depot.area.files.map (Desk.info g.settings.deskRules)),
        (g.depot.area.files.map (Desk.info g.settings.deskRules)).length) := by
  unfold Gateway.listFiles Desk.list StagingArea.list StagingArea.guard
  rw [hup, ← Page.map_window, List.length_map]
  rfl

/-- A query for a page of a listing is answered with this page. -/
theorem answer_eq (hn : g.engine.Numbered) (hserved : l.Served g)
    (hroom : (l.items g).length ≤ maxWord) (hsize : 0 < size)
    (hasks : l.Asks g q page size) :
    l.answer g q = .ok (l.pageDoc g size page) := by
  obtain ⟨p, s, hp, hs, hrequest⟩ := hasks.request hsize
  have hparameters : pageParameters q = .ok (p, s) := by
    unfold pageParameters
    rw [hp, hs]
    rfl
  have hmeant := hasks.meant
  cases l with
  | files =>
      unfold answer listFiles
      simp only [hparameters, hrequest, listFiles_eq hserved, bind,
        Except.bind]
      exact congrArg Except.ok (paged_eq (l := .files) _ rfl
        (by simpa [items] using hroom))
  | jobs =>
      have hcount : JobDesk.countJobs g.engine
          = (g.engine.jobNames.map
              (JobDesk.summary g.engine g.now)).length := by
        rw [List.length_map]
        rfl
      unfold answer listJobs JobDesk.jobs
      simp only [hparameters, hrequest, ask_eq hserved, Page.map_window,
        hcount, bind, Except.bind]
      exact congrArg Except.ok (paged_eq (l := .jobs) _ rfl
        (by simpa [items] using hroom))
  | instances job =>
      have hcount : JobDesk.countInstances g.engine job
          = (instanceReports g job).length := by
        unfold instanceReports
        rw [List.length_map]
        rfl
      unfold answer listInstances
      simp only [show q.text "jobname" = .ok (some job) from hmeant,
        hparameters, hrequest, ask_eq hserved, tryAsk_eq hserved,
        instances_eq hn, hcount, bind, Except.bind]
      exact congrArg Except.ok (paged_eq (l := .instances job) _ rfl
        (by simpa [items] using hroom))
  | executions =>
      have hcount : JobDesk.countExecutions g.engine
          = (JobDesk.reports g.now g.engine.newest).length := by
        unfold JobDesk.reports
        rw [List.length_map]
        rfl
      unfold answer listExecutions pageExecutions JobDesk.executions
        JobDesk.reports
      simp only [hmeant.1, hmeant.2, hparameters, hrequest, ask_eq hserved,
        Page.map_window, hcount, bind, Except.bind]
      exact congrArg Except.ok (paged_eq (l := .executions) _ rfl
        (by simpa [items] using hroom))
  | executionsOf job =>
      have hcount : JobDesk.countExecutionsOf g.engine job
          = (JobDesk.reports g.now (g.engine.newestOf job)).length := by
        unfold JobDesk.reports
        rw [List.length_map]
        rfl
      unfold answer listExecutions pageExecutions JobDesk.executionsOf
        JobDesk.reports
      simp only [hmeant.1, hmeant.2, hparameters, hrequest, ask_eq hserved,
        Page.map_window, hcount, bind, Except.bind]
      exact congrArg Except.ok (paged_eq (l := .executionsOf job) _ rfl
        (by simpa [items] using hroom))

end Listing

end Web

end BatchAdmin
