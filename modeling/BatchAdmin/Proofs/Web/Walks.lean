/-
Walking a listing from page to page.

A client that starts with the first page and follows the link `next` for as
long as there is one makes a walk (`Walk`): each link is taken out of the
document as it stands there, and its query is read as the server reads it.
Since a link of a page asks for that page with the same filter and size
(`asks_pageFields`), a walk goes through the pages by their numbers
(`walk_from`). So it comes to an end, shows the same filter, size and totals
throughout, and has shown each item once and in order when it ends
(`walk_visits_each_once`).
-/
import BatchAdmin.Proofs.Text.Numerals
import BatchAdmin.Proofs.Web.Links
import BatchAdmin.Proofs.Web.Listings
import BatchAdmin.Proofs.Web.Targets

namespace BatchAdmin.Web.Listing

open Text

variable {g : Gateway} {l : Listing} {q : Query} {size number : Nat}

-- ================================================================== the pages

/-- The items that a page carries. -/
def contents (doc : Json) : List Json :=
  match doc.field? "content" with
  | some (.list items) => items
  | _ => []

/-- What a page of the listing shows besides its items: its number and
size, the totals, and links with the filter and the size. -/
structure Shows (l : Listing) (g : Gateway) (size number : Nat)
    (doc : Json) : Prop where
  pageNumber : doc.field? "pageNumber" = some (.nat number)
  pageSize : doc.field? "pageSize" = some (.nat size)
  totalElements : doc.field? "totalElements" = some (.nat (l.items g).length)
  totalPages : doc.field? "totalPages" = some (.nat (l.pages g size))
  links : ∀ link ∈ linksOf doc, ∃ other,
    hrefQuery? (linkRoute g l.path) link.href
      = some (pageFields l.filters size other)

theorem linksOf_pageDoc : linksOf (l.pageDoc g size number)
    = (l.pageAt g size number).links (linkRoute g l.path) l.filters :=
  linksOf_concat _ _

theorem contents_pageDoc : contents (l.pageDoc g size number)
    = Page.windowOf (l.items g) size number := by
  have hfield : (l.pageDoc g size number).field? "content"
      = some (.list ((Page.windowOf (l.items g) size number).map id)) := rfl
  unfold contents
  rw [hfield, List.map_id]

theorem shows_pageDoc : l.Shows g size number (l.pageDoc g size number) := by
  refine ⟨rfl, rfl, rfl, rfl, fun link hlink => ?_⟩
  rw [linksOf_pageDoc] at hlink
  obtain ⟨other, hhref, -⟩ := leads_of_mem_links hlink
  exact ⟨other, hhref ▸ hrefQuery?_pageHref _ _ _ _⟩

/-- There is a link to the next page unless the page is the last. -/
theorem next_pageDoc : hrefOf? "next" (l.pageDoc g size number)
    = if number + 1 < l.pages g size then
        some (pageHref (linkRoute g l.path) l.filters size (number + 1))
      else none := by
  have hself : ("self" == "next") = false := by decide
  have hprev : ("prev" == "next") = false := by decide
  unfold hrefOf?
  rw [linksOf_pageDoc]
  unfold Page.links Page.hasNext Page.hasPrevious pageAt
  dsimp only
  by_cases hnext : number + 1 < l.pages g size
  · simp [hnext, hself]
  · by_cases hfirst : 0 < number
    · simp [hnext, hfirst, hself, hprev]
    · simp [hnext, hfirst, hself]

-- ================================================================ the queries

theorem number_of_once {name : String} {n : Nat}
    (h : q.once name = .ok (some (writeNat n)))
    (hn : (n : Int) ≤ maxSigned) : q.number name = .ok (some (n : Int)) := by
  unfold Query.number
  rw [h]
  dsimp only [bind, Except.bind]
  rw [readInt64_writeNat hn]
  rfl

theorem text_of_once {name value : String}
    (h : q.once name = .ok (some value.toList)) :
    q.text name = .ok (some value) := by
  unfold Query.text
  rw [h]
  exact congrArg (fun v => Except.ok (some v)) String.ofList_toList

/-- The link of a page asks for this page of the same listing. -/
theorem asks_pageFields (hnumber : (number : Int) ≤ maxSigned)
    (hsize : (size : Int) ≤ maxSigned) :
    l.Asks g (pageFields l.filters size number) number size := by
  have hpage : (pageFields l.filters size number).once "page"
      = .ok (some (writeNat number)) := by
    cases l <;> rfl
  have hsizes : (pageFields l.filters size number).once "size"
      = .ok (some (writeNat size)) := by
    cases l <;> rfl
  refine ⟨?_, ⟨some number, number_of_once hpage hnumber, rfl⟩,
    ⟨some size, number_of_once hsizes hsize, rfl⟩⟩
  cases l with
  | files => trivial
  | jobs => trivial
  | instances job => exact text_of_once rfl
  | executions => exact ⟨rfl, rfl⟩
  | executionsOf job => exact ⟨text_of_once rfl, rfl⟩

-- ================================================================== the walks

/-- The documents that a client gets who starts with a query and follows the
link to the next page for as long as there is one. -/
inductive Walk (l : Listing) (g : Gateway) : Query → List Json → Prop
  | last {q : Query} {doc : Json} (ha : l.answer g q = .ok doc)
      (hlast : hrefOf? "next" doc = none) : Walk l g q [doc]
  | more {q q' : Query} {doc : Json} {docs : List Json} {href : String}
      (ha : l.answer g q = .ok doc) (hnext : hrefOf? "next" doc = some href)
      (hq : hrefQuery? (linkRoute g l.path) href = some q')
      (h : Walk l g q' docs) : Walk l g q (doc :: docs)

/-- There is one page at least. -/
def length (l : Listing) (g : Gateway) (size : Nat) : Nat :=
  max 1 (l.pages g size)

/-- There is one walk at most. -/
theorem Walk.unique {docs docs' : List Json} (h : l.Walk g q docs)
    (h' : l.Walk g q docs') : docs = docs' := by
  induction h generalizing docs' with
  | last ha hlast =>
      cases h' with
      | last ha' _ =>
          cases ha.symm.trans ha'
          rfl
      | more ha' hnext _ _ =>
          cases ha.symm.trans ha'
          cases hlast.symm.trans hnext
  | more ha hnext hq _ ih =>
      cases h' with
      | last ha' hlast =>
          cases ha.symm.trans ha'
          cases hlast.symm.trans hnext
      | more ha' hnext' hq' h' =>
          cases ha.symm.trans ha'
          cases hnext.symm.trans hnext'
          cases hq.symm.trans hq'
          rw [ih h']

section Room

variable (hn : g.engine.Numbered) (hserved : l.Served g)
  (hroom : ((l.items g).length : Int) ≤ maxSigned) (hsize : 0 < size)

include hroom hsize

/-- Where there is a next page, its number and the size can be read. -/
theorem readable_of_next (hnext : number + 1 < l.pages g size) :
    ((number + 1 : Nat) : Int) ≤ maxSigned ∧ (size : Int) ≤ maxSigned := by
  have hbefore : (number + 1) * size < (l.items g).length :=
    (Page.lt_pagesFor hsize).1 hnext
  have hnumber := Nat.le_mul_of_pos_right (number + 1) hsize
  have hsizes : size ≤ (number + 1) * size :=
    Nat.le_mul_of_pos_left size (Nat.succ_pos number)
  omega

include hn hserved

theorem answer_pageDoc (hasks : l.Asks g q number size) :
    l.answer g q = .ok (l.pageDoc g size number) := by
  refine answer_eq hn hserved ?_ hsize hasks
  unfold maxSigned at hroom
  unfold maxWord
  omega

/-- From any page a walk goes through the pages that are left. -/
theorem walk_from (left : Nat) (hasks : l.Asks g q number size)
    (hleft : number + left + 1 = l.length g size) :
    l.Walk g q ((List.range' number (left + 1)).map (l.pageDoc g size)) := by
  have hanswer (q : Query) (number : Nat) (h : l.Asks g q number size) :=
    answer_pageDoc hn hserved hroom hsize h
  unfold length at hleft
  -- The induction is on the number of pages behind this one.
  induction left generalizing q number with
  | zero =>
      refine .last (hanswer q number hasks) ?_
      rw [next_pageDoc, if_neg (by omega)]
  | succ left ih =>
      have hnext : number + 1 < l.pages g size := by omega
      obtain ⟨hnumber, hsizes⟩ := readable_of_next hroom hsize hnext
      rw [List.range'_succ, List.map_cons]
      refine .more (hanswer q number hasks) ?_ (hrefQuery?_pageHref _ _ _ _)
        (ih (asks_pageFields hnumber hsizes) (by omega))
      rw [next_pageDoc, if_pos hnext]

end Room

-- ================================================================ the requests

/-- The path of a listing is that of its route. -/
theorem routed (g : Gateway) (l : Listing) :
    ∃ names route, Route.segments l.path.toList = [] :: names
      ∧ Route.ofSegments names = some route
      ∧ route.allowed.contains "GET" = true
      ∧ ∀ q r, answerRoute g route "GET" q r
          = (.ofAnswer 200 (l.answer g q), g) := by
  have hfiles : Route.segments "/files".toList
      = [[], "files".toList] := by decide
  have hjobs : Route.segments "/configurations".toList
      = [[], "configurations".toList] := by decide
  have hinstances : Route.segments "/instances".toList
      = [[], "instances".toList] := by decide
  have hexecutions : Route.segments "/executions".toList
      = [[], "executions".toList] := by decide
  cases l with
  | files => exact ⟨_, .files, hfiles, rfl, rfl, fun _ _ => rfl⟩
  | jobs => exact ⟨_, .configurations, hjobs, rfl, rfl, fun _ _ => rfl⟩
  | instances job =>
      exact ⟨_, .instances, hinstances, rfl, rfl, fun _ _ => rfl⟩
  | executions =>
      exact ⟨_, .executions, hexecutions, rfl, rfl, fun _ _ => rfl⟩
  | executionsOf job =>
      exact ⟨_, .executions, hexecutions, rfl, rfl, fun _ _ => rfl⟩

/-- The path of a listing is a path and nothing else. -/
theorem bare_path (l : Listing) : l.path.toList.head? = some '/'
    ∧ '#' ∉ l.path.toList ∧ '?' ∉ l.path.toList := by
  have hall : ∀ p ∈ ["/files", "/configurations", "/instances",
      "/executions"], p.toList.head? = some '/'
        ∧ '#' ∉ p.toList ∧ '?' ∉ p.toList := by decide
  refine hall l.path ?_
  cases l <;> simp [path]

/-- Behind a plain base path, a GET with a query to the route of a listing
is answered by the listing. -/
theorem handle_listing (h : PlainBase (basePath g)) {query : List Char}
    (hhash : '#' ∉ query) :
    handle g (get (String.ofList
        ((linkRoute g l.path).toList ++ '?' :: query)))
      = (.ofAnswer 200 (l.answer g (readForm query)), g) := by
  obtain ⟨hslash, hnohash, hnomark⟩ := l.bare_path
  obtain ⟨names, route, hnames, hroute, hget, hanswer⟩ := l.routed g
  have htarget : readTarget (String.ofList
      ((linkRoute g l.path).toList ++ '?' :: query))
        = (basePath g ++ l.path.toList, readForm query) := by
    rw [linkRoute, String.toList_ofList]
    refine readTarget_query (h.head? hslash) ?_ ?_ hhash
    · rw [List.mem_append, not_or]
      exact ⟨h.not_mem (by decide) (by decide), hnohash⟩
    · rw [List.mem_append, not_or]
      exact ⟨h.not_mem (by decide) (by decide), hnomark⟩
  rw [handle_get h htarget hnames hroute hget, hanswer]

/-- A GET of the link of a page is answered by the listing, with the query
of the link. -/
theorem handle_pageHref (h : PlainBase (basePath g)) :
    handle g (get (pageHref (linkRoute g l.path) l.filters size number))
      = (.ofAnswer 200 (l.answer g (pageFields l.filters size number)), g) := by
  unfold pageHref
  dsimp only
  rw [handle_listing h (not_mem_formQuery (by decide) (by decide) (by decide)
    _), readForm_formQuery]
  rfl

-- ============================================================ the documents

/-- The pages of a listing as documents. -/
def documents (l : Listing) (g : Gateway) (size : Nat) : List Json :=
  (List.range' 0 (l.length g size)).map (l.pageDoc g size)

theorem length_documents :
    (l.documents g size).length = l.length g size := by
  unfold documents
  rw [List.length_map, List.length_range']

theorem getElem?_documents (h : number < l.length g size) :
    (l.documents g size)[number]? = some (l.pageDoc g size number) := by
  unfold documents
  rw [List.getElem?_map, List.getElem?_range' h, Nat.zero_add, Nat.one_mul]
  rfl

theorem eq_pageDoc {doc : Json}
    (h : (l.documents g size)[number]? = some doc) :
    doc = l.pageDoc g size number := by
  obtain ⟨hlt, -⟩ := List.getElem?_eq_some_iff.1 h
  rw [length_documents] at hlt
  rw [getElem?_documents hlt] at h
  exact (Option.some.inj h).symm

/-- Together they carry what there is to list. -/
theorem flatMap_documents (hsize : 0 < size) :
    (l.documents g size).flatMap contents = l.items g := by
  have hall : (l.items g).length ≤ (0 + l.length g size) * size := by
    rw [Nat.zero_add]
    exact Nat.le_trans (Page.le_pagesFor_mul hsize)
      (Nat.mul_le_mul_right size (Nat.le_max_right 1 _))
  unfold documents
  rw [List.flatMap_map, funext fun _ => contents_pageDoc,
    Page.flatMap_windows _ _ _ _ hall, Nat.zero_mul, List.drop_zero]

/-- A page that another one follows is full. -/
theorem length_contents (hsize : 0 < size)
    (hnext : number + 1 < l.length g size) :
    (contents (l.pageDoc g size number)).length = size := by
  rw [contents_pageDoc]
  refine Page.length_windowOf hsize ?_
  unfold length pages at hnext
  omega

/-- Behind a plain base path a GET of the link to the next page is answered
with the next document. -/
theorem handle_next (hn : g.engine.Numbered) (hserved : l.Served g)
    (hroom : ((l.items g).length : Int) ≤ maxSigned) (hsize : 0 < size)
    (hbase : PlainBase (basePath g)) {href : String}
    (hnext : hrefOf? "next" (l.pageDoc g size number) = some href) :
    ∃ next, (l.documents g size)[number + 1]? = some next
      ∧ handle g (get href) = (.document 200 next, g) := by
  rw [next_pageDoc] at hnext
  split at hnext
  · rename_i hlt
    rw [← Option.some.inj hnext]
    obtain ⟨hnumber, hsizes⟩ := readable_of_next hroom hsize hlt
    refine ⟨l.pageDoc g size (number + 1), getElem?_documents ?_, ?_⟩
    · unfold length
      omega
    · rw [handle_pageHref hbase,
        answer_pageDoc hn hserved hroom hsize
          (asks_pageFields hnumber hsizes)]
      rfl
  · cases hnext

/-- In every state of the engine, for each listing and each size: a client
that starts with the first page and follows the links to the next ones comes
to an end after as many documents as there are pages, or after one. All of
them show the same filter, size and totals, all but the last are full, and
together they carry each item that there is to list, in the order of the
listing. Behind a plain base path this is so for the requests as they are
sent: each link is answered with the next document of the walk. No more
items are listed than a signed word counts, as no list in memory is
longer. -/
theorem walk_visits_each_once {definitions : List JobDefinition}
    {pace : Option Nat} {turns : List Engine.Turn}
    (hreach : g.engine = (Engine.fresh definitions pace).play turns)
    (hserved : l.Served g)
    (hroom : ((l.items g).length : Int) ≤ maxSigned) (hsize : 0 < size)
    (hasks : l.Asks g q 0 size) :
    ∃ docs, l.Walk g q docs
      ∧ (∀ docs', l.Walk g q docs' → docs' = docs)
      ∧ docs.length = max 1 (l.pages g size)
      ∧ (∀ number doc, docs[number]? = some doc →
          l.Shows g size number doc
            ∧ (number + 1 < docs.length → (contents doc).length = size))
      ∧ docs.flatMap contents = l.items g
      ∧ l.Ordered g
      ∧ (PlainBase (basePath g) → ∀ number doc href,
          docs[number]? = some doc → hrefOf? "next" doc = some href →
            ∃ next, docs[number + 1]? = some next
              ∧ handle g (get href) = (.document 200 next, g)) := by
  have hn : g.engine.Numbered := hreach ▸ Engine.numbered_play _ _ _
  have hwalk : l.Walk g q (l.documents g size) := by
    have hlast : 0 + (l.length g size - 1) + 1 = l.length g size := by
      unfold length
      omega
    have hwalk := walk_from hn hserved hroom hsize _ hasks hlast
    rw [Nat.zero_add] at hlast
    rwa [hlast] at hwalk
  refine ⟨l.documents g size, hwalk, fun docs' h' => h'.unique hwalk,
    length_documents, ?_, flatMap_documents hsize, l.ordered hn, ?_⟩
  · intro number doc hdoc
    obtain rfl := eq_pageDoc hdoc
    refine ⟨shows_pageDoc, fun hnext => ?_⟩
    rw [length_documents] at hnext
    exact length_contents hsize hnext
  · intro hbase number doc href hdoc hnext
    obtain rfl := eq_pageDoc hdoc
    exact handle_next hn hserved hroom hsize hbase hnext

-- ------------------------------------------------------------ two launches

/-- A gateway with a job whose name has to be escaped, launched twice. -/
def shop : Gateway :=
  let job : JobDefinition :=
    { name := "sales & returns", incrementable := true, concurrent := true }
  let g := Gateway.fresh { Settings.default with jobs := [job] } ⟨0, 0⟩
  { g with
    engine := g.engine.play
      [⟨.launch job.name .empty, 0, 0⟩, ⟨.launch job.name .empty, 1, 0⟩] }

/-- One by one, both executions of the job are visited. -/
theorem shop_visited :
    let l := Listing.executionsOf "sales & returns"
    let q := pageFields l.filters 1 0
    l.Served shop ∧ l.Asks shop q 0 1
      ∧ ∃ docs, l.Walk shop q docs ∧ docs.length = 2
        ∧ docs.flatMap contents = l.items shop := by
  intro l q
  have hcount : (l.items shop).length = 2 := by decide
  have hserved : l.Served shop := rfl
  have hasks : l.Asks shop q 0 1 := asks_pageFields (by decide) (by decide)
  refine ⟨hserved, hasks, ?_⟩
  obtain ⟨docs, hwalk, -, hlength, -, hall, -⟩ :=
    walk_visits_each_once rfl hserved (by rw [hcount]; decide) Nat.one_pos
      hasks
  refine ⟨docs, hwalk, ?_, hall⟩
  rw [hlength, pages, hcount]
  decide

end BatchAdmin.Web.Listing
