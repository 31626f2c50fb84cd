/-
The neighbours of a page, and the links to them.

There is a page with a number while an item stands on it (`Has`,
`has_ofRequest`). Clients may ask for pages far behind the last one, and
the page that they get links to the numbers after and before its own.

The link `next` is there exactly if there is a page for it to lead to. The
link `prev` is there on every page but the first and never looks at the
total. So it is right up to the number behind the last page, and from there
on it leads to a page that is not there (`neighbours_linked_iff`): an empty
listing, asked for its second page, offers its first (`emptyListing_linked`).
-/
import BatchAdmin.Proofs.Paging.Windows
import BatchAdmin.Paging.Link

namespace BatchAdmin.Page

variable {α : Type} {p : Page α} {route : String} {filters : Filters}

-- ================================================================ the pages

/-- There is a page with this number. -/
def Has (p : Page α) (number : Int) : Prop :=
  0 ≤ number ∧ number < p.totalPages

instance (number : Int) : Decidable (p.Has number) :=
  inferInstanceAs (Decidable (0 ≤ number ∧ number < p.totalPages))

/-- There is a page with a number exactly if an item stands on it. -/
theorem has_ofRequest {r : PageRequest} {total : Nat} {items : List α}
    {number : Nat} :
    (ofRequest r total items).Has number ↔ number * r.size < total := by
  rw [← lt_pagesFor r.size_pos]
  unfold Has ofRequest
  dsimp only
  omega

-- ================================================================ the links

/-- The page carries a link of this name. -/
def LinksTo (p : Page α) (rel route : String) (filters : Filters) : Prop :=
  ∃ link ∈ p.links route filters, link.rel = rel

/-- The links of a page by their names. -/
theorem rels_links : (p.links route filters).map (·.rel)
    = "self" :: ((if p.hasNext then ["next"] else [])
        ++ if p.hasPrevious then ["prev"] else []) := by
  unfold links
  cases p.hasNext <;> cases p.hasPrevious <;> rfl

theorem linksTo_iff {rel : String} : p.LinksTo rel route filters
    ↔ rel = "self" ∨ (p.hasNext = true ∧ rel = "next")
      ∨ (p.hasPrevious = true ∧ rel = "prev") := by
  have hrels : p.LinksTo rel route filters
      ↔ rel ∈ (p.links route filters).map (·.rel) := List.mem_map.symm
  rw [hrels, rels_links]
  cases p.hasNext <;> cases p.hasPrevious <;> simp

/-- A page is linked to as the next one exactly if it is there. -/
theorem linksTo_next_iff :
    p.LinksTo "next" route filters ↔ p.Has (p.number + 1) := by
  have hnext : p.LinksTo "next" route filters ↔ p.hasNext = true := by
    simp [linksTo_iff]
  rw [hnext]
  unfold hasNext Has
  rw [decide_eq_true_eq]
  omega

/-- There is a link to the page before unless the page is the first. -/
theorem linksTo_prev : p.LinksTo "prev" route filters ↔ 0 < p.number := by
  have hprev : p.LinksTo "prev" route filters ↔ p.hasPrevious = true := by
    simp [linksTo_iff]
  rw [hprev]
  exact decide_eq_true_iff

/-- That page is there exactly up to the number behind the last page. -/
theorem linksTo_prev_iff :
    (p.LinksTo "prev" route filters ↔ p.Has (p.number - 1))
      ↔ p.number ≤ p.totalPages := by
  rw [linksTo_prev]
  unfold Has
  omega

/-- Whatever page is asked for, there is a page where an item stands on it;
a next page is linked to exactly if there is one; and a previous page is
linked to exactly if there is one, exactly if the page that was asked for is
the one behind the last page at most. -/
theorem neighbours_linked_iff (r : PageRequest) (total : Nat)
    (items : List α) (route : String) (filters : Filters) :
    let p := ofRequest r total items
    (∀ number : Nat, p.Has number ↔ number * p.size < total)
      ∧ (p.LinksTo "next" route filters ↔ p.Has (p.number + 1))
      ∧ ((p.LinksTo "prev" route filters ↔ p.Has (p.number - 1))
        ↔ p.number ≤ p.totalPages) :=
  ⟨fun _ => has_ofRequest, linksTo_next_iff, linksTo_prev_iff⟩

/-- The second page of an empty listing is linked to a first page, and there
is none. -/
theorem emptyListing_linked :
    let p : Page FileInfo := ofRequest ⟨1, 10, by decide⟩ 0 []
    p.LinksTo "prev" "/files" [] ∧ ¬p.Has (p.number - 1) :=
  ⟨linksTo_prev.2 (by decide), by decide⟩

end BatchAdmin.Page
