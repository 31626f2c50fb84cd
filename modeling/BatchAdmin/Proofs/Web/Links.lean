/-
Links as clients find them in documents.

A client knows documents only: it takes the links out of the field `links`
(`linksOf`), picks one by its name (`hrefOf?`), and what a link asks for is
the query behind its route, read as forms are read (`hrefQuery?`). What is
written into documents is found there again.
-/
import BatchAdmin.Web.Handlers
import BatchAdmin.Proofs.Text.Escapes

namespace BatchAdmin.Web

open Text

-- ================================================================== documents

/-- A link as a document carries it. -/
def readLink? (doc : Json) : Option Link :=
  match doc.field? "rel", doc.field? "href" with
  | some (.text rel), some (.text href) => some ⟨rel, href⟩
  | _, _ => none

/-- The links that a document carries. -/
def linksOf (doc : Json) : List Link :=
  match doc.field? "links" with
  | some (.list links) => links.filterMap readLink?
  | _ => []

/-- Where the link of this name leads. -/
def hrefOf? (rel : String) (doc : Json) : Option String :=
  ((linksOf doc).find? fun link => link.rel == rel).map (·.href)

/-- The last field of a name is the one that counts. -/
theorem field?_concat (fields : List (String × Json)) (name : String)
    (value : Json) :
    (Json.object (fields ++ [(name, value)])).field? name = some value := by
  unfold Json.field? Json.lastField?
  dsimp only
  rw [List.reverse_append, List.reverse_singleton, List.singleton_append,
    List.find?_cons_of_pos (by simp)]
  rfl

theorem field?_concat_of_ne (fields : List (String × Json))
    {name other : String} (hne : other ≠ name) (value : Json) :
    (Json.object (fields ++ [(other, value)])).field? name
      = (Json.object fields).field? name := by
  unfold Json.field? Json.lastField?
  dsimp only
  rw [List.reverse_append, List.reverse_singleton, List.singleton_append,
    List.find?_cons_of_neg (by simpa using hne)]

/-- Links that stand last in a document are found. -/
theorem linksOf_concat (fields : List (String × Json)) (links : List Link) :
    linksOf (.object (fields ++ [("links", Link.listJson links)])) = links := by
  have hread (link : Link) : readLink? (.object
      [("rel", .text link.rel), ("href", .text link.href)]) = some link := rfl
  unfold linksOf
  rw [field?_concat]
  unfold Link.listJson
  dsimp only
  rw [List.filterMap_map]
  refine (List.filterMap_congr fun link _ => hread link).trans ?_
  exact List.filterMap_some

-- ==================================================================== queries

/-- The query of a link to a route. -/
def hrefQuery? (route href : String) : Option Query :=
  (after? (route.toList ++ ['?']) href.toList).map readForm

/-- The fields of the query of a page. -/
def pageFields (filters : Filters) (size number : Nat) : Query :=
  filters.map (fun (k, v) => (k.toList, v.toList))
    ++ [("page".toList, writeNat number), ("size".toList, writeNat size)]

theorem after?_append (front rest : List Char) :
    after? front (front ++ rest) = some rest := by
  induction front with
  | nil => rfl
  | cons c more ih => rw [List.cons_append, after?, if_pos rfl, ih]

/-- The link of a page asks for that page. -/
theorem hrefQuery?_pageHref (route : String) (filters : Filters)
    (size number : Nat) :
    hrefQuery? route (pageHref route filters size number)
      = some (pageFields filters size number) := by
  have hcut (query : List Char) :
      after? (route.toList ++ ['?']) (route.toList ++ '?' :: query)
        = some query := by
    rw [show route.toList ++ '?' :: query = (route.toList ++ ['?']) ++ query
      by simp]
    exact after?_append _ _
  unfold hrefQuery? pageHref
  dsimp only
  rw [String.toList_ofList, hcut, Option.map_some, readForm_formQuery]
  rfl

/-- Every link of a page leads to a page of its size: itself, the next or
the one before. -/
theorem leads_of_mem_links {α : Type} {p : Page α} {route : String}
    {filters : Filters} {link : Link} (h : link ∈ p.links route filters) :
    ∃ number, link.href = pageHref route filters p.size number
      ∧ (link.rel, number) ∈ [("self", p.number), ("next", p.number + 1),
        ("prev", p.number - 1)] := by
  unfold Page.links at h
  rcases List.mem_append.1 h with h | h
  · rcases List.mem_append.1 h with h | h
    · obtain rfl := List.mem_singleton.1 h
      exact ⟨_, rfl, by simp⟩
    · split at h
      · obtain rfl := List.mem_singleton.1 h
        exact ⟨_, rfl, by simp⟩
      · cases h
  · split at h
    · obtain rfl := List.mem_singleton.1 h
      exact ⟨_, rfl, by simp⟩
    · cases h

end BatchAdmin.Web
