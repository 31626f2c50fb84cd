/-
Links: where to find an entity and the pages around a page.

Every entity has a natural key, and its link is the key written as a
path below the route that the entity is served under. Names are escaped
segment by segment, so that no character of a name can be taken for a
part of the path. The links of a page repeat the filters of the request,
followed by the page's number and size.
-/
import BatchAdmin.Paging.Page
import BatchAdmin.Text.Percent
import BatchAdmin.Staging.FileInfo
import BatchAdmin.Report.Job

namespace BatchAdmin

open Text

-- ================================================================= the keys

/-- The natural key of an entity. -/
inductive ResourceId where
  | file (path : String)
  | job (name : String)
  | jobInstance (id : Int)
  | execution (id : Int)
  | step (execution step : Int)
  deriving DecidableEq, Repr

/-- A key as a path below the route of its collection. -/
def ResourceId.path : ResourceId → List Char
  | .file path =>
      joined ['/'] ((pieces (· == '/') path.toList).map pathSegment)
  | .job name => pathSegment name.toList
  | .jobInstance id | .execution id => writeInt id
  | .step owner id =>
      writeInt owner ++ "/steps/".toList ++ writeInt id

/-- Entities that clients can address. -/
class Addressed (α : Type) where
  resourceId : α → ResourceId
  /-- The entity as the fields of a document. -/
  toJson : α → Json

instance : Addressed FileInfo := ⟨fun f => .file f.path, (·.toJson)⟩
instance : Addressed JobSummary := ⟨fun j => .job j.name, (·.toJson)⟩
instance : Addressed JobDetail :=
  ⟨fun j => .job j.summary.name, (·.toJson)⟩
instance : Addressed InstanceReport :=
  ⟨fun i => .jobInstance i.id, (·.toJson)⟩
instance : Addressed ExecutionReport :=
  ⟨fun e => .execution e.id, (·.toJson)⟩
instance : Addressed StepReport :=
  ⟨fun s => .step s.executionId s.id, (·.toJson)⟩

-- ================================================================ the links

/-- A link: what it leads to, and where. -/
structure Link where
  rel : String
  href : String
  deriving DecidableEq, Repr

/-- Links as documents carry them. -/
def Link.listJson (links : List Link) : Json :=
  .list (links.map fun l =>
    .object [("rel", .text l.rel), ("href", .text l.href)])

/-- A route without the slashes at its end. -/
def bareRoute (route : List Char) : List Char :=
  (route.reverse.dropWhile (· == '/')).reverse

/-- Where an entity is found under a route. -/
def selfHref {α : Type} [Addressed α] (route : String) (entity : α) :
    String :=
  String.ofList (bareRoute route.toList
    ++ '/' :: (Addressed.resourceId entity).path)

/-- The link of an entity to itself. -/
def selfLink {α : Type} [Addressed α] (route : String) (entity : α) :
    Link :=
  ⟨"self", selfHref route entity⟩

/-- An entity with its link, as a document. -/
def linked {α : Type} [Addressed α] (route : String) (entity : α) : Json :=
  (Addressed.toJson entity).extended
    [("links", Link.listJson [selfLink route entity])]

-- ============================================================ links of pages

/-- The filters of a listing, as they stood in its request. -/
abbrev Filters := List (String × String)

/-- Where the page with a number is found. -/
def pageHref (route : String) (filters : Filters) (size number : Nat) :
    String :=
  let named := filters.map fun (k, v) => (k.toList, v.toList)
  let query := formQuery (named ++
    [("page".toList, writeNat number), ("size".toList, writeNat size)])
  String.ofList (route.toList ++ '?' :: query)

/-- The links of a page: to itself and to its neighbours. -/
def Page.links {α : Type} (p : Page α) (route : String)
    (filters : Filters) : List Link :=
  let leading (rel : String) (number : Nat) : Link :=
    ⟨rel, pageHref route filters p.size number⟩
  [leading "self" p.number]
    ++ (if p.hasNext then [leading "next" (p.number + 1)] else [])
    ++ (if p.hasPrevious then [leading "prev" (p.number - 1)] else [])

/-- A page of linked entities with its own links, as a document. -/
def Page.linkedJson {α : Type} [Addressed α] (p : Page α)
    (route : String) (filters : Filters) : Json :=
  .object (p.fields (linked route)
    ++ [("links", Link.listJson (p.links route filters))])

end BatchAdmin
