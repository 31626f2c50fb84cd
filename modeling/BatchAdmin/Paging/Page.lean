/-
Pages: a window on a long list, and where in the list it stands.

A page is made of a window of items and a count of all items, which are
asked for separately. Its number counts windows of its size from the
front of the list; the last page may be short. There is a next page
while the number after it is below the number of pages, and a previous
one unless it is the first.
-/
import BatchAdmin.Failure
import BatchAdmin.Json.Basic

namespace BatchAdmin

open Text

-- ============================================================= the requests

/-- A request for one page. -/
structure PageRequest where
  page : Nat
  size : Nat
  size_pos : 0 < size
  deriving DecidableEq, Repr

namespace PageRequest

/-- A number that may not be negative. -/
def checkFrom (name : String) (n : Int) : Answer Nat :=
  if n < 0 then
    .error (.invalidPage (name ++ " must be >= 0, got " ++ intText n))
  else .ok n.toNat

/-- A number that must be positive. -/
def checkSize (name : String) (n : Int) : Answer { n : Nat // 0 < n } :=
  if h : 0 < n then .ok ⟨n.toNat, by omega⟩
  else .error (.invalidPage (name ++ " must be > 0, got " ++ intText n))

/-- The request for a page of a size. -/
def read (page size : Int) : Answer PageRequest := do
  let page ← checkFrom "page" page
  let ⟨size, size_pos⟩ ← checkSize "size" size
  return { page, size, size_pos }

/-- Where the page starts. The product may be larger than any list; it
stays at the largest word. -/
def offset (r : PageRequest) : Nat :=
  min (r.page * r.size) maxWord

end PageRequest

-- ================================================================ the pages

/-- A window of items and where it stands. -/
structure Page (α : Type) where
  content : List α
  number : Nat
  size : Nat
  totalElements : Nat
  totalPages : Nat
  deriving DecidableEq, Repr

namespace Page

variable {α β : Type}

/-- How many pages of a size hold a number of items. -/
def pagesFor (total size : Nat) : Nat :=
  (total + (size - 1)) / size

/-- The page that a request asks for. -/
def ofRequest (r : PageRequest) (total : Nat) (items : List α) : Page α :=
  { content := items.take r.size, number := r.page, size := r.size
    totalElements := total, totalPages := pagesFor total r.size }

/-- The page around a window, which may start anywhere. -/
def ofWindow (offset limit : Int) (total : Nat) (items : List α) :
    Answer (Page α) := do
  let offset ← PageRequest.checkFrom "offset" offset
  let ⟨limit, _⟩ ← PageRequest.checkSize "limit" limit
  return { content := items.take limit, number := offset / limit
           size := limit, totalElements := total
           totalPages := pagesFor total limit }

/-- There is a page after this one. -/
def hasNext (p : Page α) : Bool := decide (p.number + 1 < p.totalPages)

/-- There is a page before this one. -/
def hasPrevious (p : Page α) : Bool := decide (0 < p.number)

/-- The page with each item changed. -/
def map (f : α → β) (p : Page α) : Page β :=
  { content := p.content.map f, number := p.number, size := p.size
    totalElements := p.totalElements, totalPages := p.totalPages }

/-- A page as the fields of a document. -/
def fields (p : Page α) (item : α → Json) : List (String × Json) :=
  [("content", .list (p.content.map item)),
    ("pageNumber", .nat p.number), ("pageSize", .nat p.size),
    ("totalElements", .nat p.totalElements),
    ("totalPages", .nat p.totalPages)]

end Page

end BatchAdmin
