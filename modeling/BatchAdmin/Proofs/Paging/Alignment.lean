/-
Pages around windows that start anywhere.

A page knows its number and its size; where its window started is told by
their product alone. What it tells of a window can be true (`Truthful`) only
if the window starts where a page does, and then all of it is: the number,
and whether something lies behind the window and before it. At other offsets
the page is that of the count in which the window starts, and is mistaken
about where it starts. It is then mistaken also about what lies behind the
window if the list ends within it, but behind the start of the page after
that, and about what lies before the window if it starts on the first page
(`ofWindow_truthful_iff`).

Requests for pages ask for windows at the start of pages only. A page that
is made for such a window is the page that was asked for.
-/
import BatchAdmin.Proofs.Paging.Windows

namespace BatchAdmin.Page

open Engine (window)
open Text (maxSigned)

variable {α : Type} {xs items : List α} {offset limit total : Nat}

-- =============================================================== the windows

/-- An item of the list lies behind the window. -/
def ItemBehind (xs : List α) (offset limit : Nat) : Prop :=
  ∃ position, offset + limit ≤ position ∧ position < xs.length

/-- A position for an item lies before the window. -/
def PositionBefore (offset : Nat) : Prop :=
  ∃ position, position < offset

theorem itemBehind_iff :
    ItemBehind xs offset limit ↔ offset + limit < xs.length :=
  ⟨fun ⟨_, hbehind, hwithin⟩ => Nat.lt_of_le_of_lt hbehind hwithin,
    fun h => ⟨_, Nat.le_refl _, h⟩⟩

theorem positionBefore_iff : PositionBefore offset ↔ 0 < offset :=
  ⟨fun ⟨_, h⟩ => Nat.zero_lt_of_lt h, fun h => ⟨0, h⟩⟩

/-- What a page tells of a window on a list is true. -/
structure Truthful (p : Page α) (xs : List α) (offset limit : Nat) :
    Prop where
  content : p.content = window offset limit xs
  start : p.number * p.size = offset
  next : p.hasNext = true ↔ ItemBehind xs offset limit
  previous : p.hasPrevious = true ↔ PositionBefore offset

-- ================================================================= the pages

/-- The page around a window. -/
def around (offset limit total : Nat) (items : List α) : Page α :=
  { content := items.take limit, number := offset / limit, size := limit
    totalElements := total, totalPages := pagesFor total limit }

theorem ofWindow_eq_around (hlimit : 0 < limit) :
    ofWindow offset limit total items
      = .ok (around offset limit total items) := by
  have hfrom : PageRequest.checkFrom "offset" (offset : Int) = .ok offset :=
    if_neg (by omega)
  have hsize : PageRequest.checkSize "limit" (limit : Int)
      = .ok ⟨limit, hlimit⟩ := dif_pos (by omega)
  unfold ofWindow
  rw [hfrom, hsize]
  rfl

/-- A window has no more items than fit on its page. -/
theorem content_around :
    (around offset limit total (window offset limit xs)).content
      = window offset limit xs := by
  unfold around window
  dsimp only
  rw [List.take_take, Nat.min_self]

/-- The page starts where the window does if that is at the start of a
page. -/
theorem start_around_iff :
    (around offset limit total items).number
        * (around offset limit total items).size = offset
      ↔ limit ∣ offset :=
  (Nat.dvd_iff_div_mul_eq _ _).symm

-- A page that the window starts on does not end behind the window, so the
-- flag `next` is never missing, and `previous` is never there in vain.

theorem hasNext_around_iff (hlimit : 0 < limit) :
    (around offset limit total items).hasNext = true
      ↔ (offset / limit + 1) * limit < total := by
  unfold hasNext around
  rw [decide_eq_true_eq]
  exact lt_pagesFor hlimit

theorem next_around_iff (hlimit : 0 < limit) :
    ((around offset limit xs.length items).hasNext = true
        ↔ ItemBehind xs offset limit)
      ↔ ((offset / limit + 1) * limit < xs.length
        → offset + limit < xs.length) := by
  have hstart : (offset / limit + 1) * limit ≤ offset + limit := by
    rw [Nat.succ_mul]
    exact Nat.add_le_add_right (Nat.div_mul_le_self offset limit) limit
  rw [hasNext_around_iff hlimit, itemBehind_iff]
  exact ⟨fun h => h.1, fun h => ⟨h, Nat.lt_of_le_of_lt hstart⟩⟩

theorem previous_around_iff (hlimit : 0 < limit) :
    ((around offset limit total items).hasPrevious = true
        ↔ PositionBefore offset)
      ↔ offset = 0 ∨ limit ≤ offset := by
  have hprevious : (around offset limit total items).hasPrevious = true
      ↔ limit ≤ offset := by
    unfold hasPrevious around
    rw [decide_eq_true_eq]
    exact Nat.div_pos_iff.trans (and_iff_right hlimit)
  rw [hprevious, positionBefore_iff]
  omega

/-- All that a page tells of a window is true if it starts where a page
does. -/
theorem truthful_around_iff (hlimit : 0 < limit) :
    (around offset limit xs.length (window offset limit xs)).Truthful xs
        offset limit
      ↔ limit ∣ offset := by
  constructor
  · exact fun h => start_around_iff.1 h.start
  · intro hdvd
    have hstart : (offset / limit + 1) * limit = offset + limit := by
      rw [Nat.succ_mul, Nat.div_mul_cancel hdvd]
    exact
      { content := content_around
        start := start_around_iff.2 hdvd
        next := (next_around_iff hlimit).2 fun h => hstart ▸ h
        previous := (previous_around_iff hlimit).2 <|
          (Nat.eq_zero_or_pos offset).imp_right fun hpos =>
            Nat.le_of_dvd hpos hdvd }

-- ============================================================== the requests

/-- Where a page starts, if that is a signed word. -/
theorem offset_eq_mul {r : PageRequest} (h : (r.offset : Int) ≤ maxSigned) :
    r.offset = r.page * r.size := by
  unfold PageRequest.offset Text.maxWord maxSigned at *
  omega

/-- A page that is made for the window of a request is the page of the
request. -/
theorem ofWindow_offset (r : PageRequest)
    (h : (r.offset : Int) ≤ maxSigned) :
    ofWindow r.offset r.size total items = .ok (ofRequest r total items) := by
  rw [ofWindow_eq_around r.size_pos]
  unfold around ofRequest
  rw [offset_eq_mul h, Nat.mul_div_cancel _ r.size_pos]

-- =================================================================== windows

/-- For the window of a list at any offset and any limit there is a page. It
holds the window, and all that it tells of it is true exactly if the offset
is a multiple of the limit: exactly then it starts where the window does; it
is right about what lies behind the window exactly if the list does not end
within the window and behind the start of the page after this one; and about
what lies before exactly if the window starts at the front or behind the
first page. For the offset of a request it is the page of the request. -/
theorem ofWindow_truthful_iff (xs : List α) (offset : Nat) {limit : Nat}
    (hlimit : 0 < limit) :
    (∃ p, ofWindow offset limit xs.length (window offset limit xs) = .ok p
      ∧ p.content = window offset limit xs ∧ p.size = limit
      ∧ (p.Truthful xs offset limit ↔ limit ∣ offset)
      ∧ (p.number * p.size = offset ↔ limit ∣ offset)
      ∧ ((p.hasNext = true ↔ ItemBehind xs offset limit)
        ↔ ((p.number + 1) * p.size < xs.length
          → offset + limit < xs.length))
      ∧ ((p.hasPrevious = true ↔ PositionBefore offset)
        ↔ offset = 0 ∨ limit ≤ offset))
    ∧ ∀ r : PageRequest, (r.offset : Int) ≤ maxSigned →
      ∀ (total : Nat) (items : List α),
        ofWindow r.offset r.size total items
          = .ok (ofRequest r total items) :=
  ⟨⟨_, ofWindow_eq_around hlimit, content_around, rfl,
    truthful_around_iff hlimit, start_around_iff, next_around_iff hlimit,
    previous_around_iff hlimit⟩, fun r h _ _ => ofWindow_offset r h⟩

/-- The last of three pages, which is not full. -/
theorem lastPage_truthful :
    0 < 5 ∧ ((⟨2, 5, by decide⟩ : PageRequest).offset : Int) ≤ maxSigned
      ∧ (∃ p, ofWindow 10 5 12 [10, 11] = .ok p
        ∧ p.Truthful (List.range 12) 10 5)
      ∧ ofWindow 10 5 12 [10, 11]
        = .ok (ofRequest ⟨2, 5, by decide⟩ 12 [10, 11]) := by
  obtain ⟨⟨p, hp, -, -, htruthful, -⟩, hrequest⟩ :=
    ofWindow_truthful_iff (List.range 12) 10 (show 0 < 5 by decide)
  exact ⟨by decide, by decide, ⟨p, hp, htruthful.2 (by decide)⟩,
    hrequest ⟨2, 5, by decide⟩ (by decide) 12 [10, 11]⟩

/-- The last five of eight items: the page starts three items early, tells
of more behind the window and of nothing before it. -/
theorem lastFive_mistaken :
    ∃ p, ofWindow 3 5 8 (window 3 5 (List.range 8)) = .ok p
      ∧ p.number * p.size = 0
      ∧ p.hasNext = true ∧ ¬ItemBehind (List.range 8) 3 5
      ∧ p.hasPrevious = false ∧ PositionBefore 3
      ∧ ¬p.Truthful (List.range 8) 3 5 := by
  have hbehind : ¬ItemBehind (List.range 8) 3 5 := by
    rw [itemBehind_iff]
    decide
  exact ⟨_, rfl, rfl, by decide, hbehind, by decide, ⟨0, by decide⟩,
    fun h => hbehind (h.next.1 (by decide))⟩

end BatchAdmin.Page
