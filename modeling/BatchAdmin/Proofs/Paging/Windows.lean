/-
The windows of a list.

Cut into windows of one size, a list has as many of them as there are
pages (`lt_pagesFor`): the windows from any page on hold what is left of
the list, in order and once each (`flatMap_windows`), and all of them but
the last are full.
-/
import BatchAdmin.Paging.Page
import BatchAdmin.Engine.Listing

namespace BatchAdmin.Page

open Engine (window)

variable {α β : Type} {xs : List α} {size total number : Nat}

/-- There is a page with a number while there are items from there on. -/
theorem lt_pagesFor (hsize : 0 < size) :
    number < pagesFor total size ↔ number * size < total := by
  unfold pagesFor
  rw [← Nat.succ_le_iff, Nat.le_div_iff_mul_le hsize, Nat.succ_mul]
  omega

/-- The pages hold all items. -/
theorem le_pagesFor_mul (hsize : 0 < size) :
    total ≤ pagesFor total size * size := by
  refine Nat.not_lt.1 fun hlt => ?_
  exact Nat.lt_irrefl _ ((lt_pagesFor hsize).2 hlt)

/-- The window of a page. -/
def windowOf (xs : List α) (size number : Nat) : List α :=
  window (number * size) size xs

theorem map_window (f : α → β) (offset limit : Nat) (xs : List α) :
    (window offset limit xs).map f = window offset limit (xs.map f) := by
  unfold window
  rw [List.map_take, List.map_drop]

theorem windowOf_map (f : α → β) :
    windowOf (xs.map f) size number = (windowOf xs size number).map f :=
  (map_window f _ _ xs).symm

/-- A window that a later one follows is full. -/
theorem length_windowOf (hsize : 0 < size)
    (hnext : number + 1 < pagesFor xs.length size) :
    (windowOf xs size number).length = size := by
  rw [lt_pagesFor hsize, Nat.succ_mul] at hnext
  unfold windowOf window
  rw [List.length_take, List.length_drop]
  omega

/-- The windows from a page on hold what is left of the list. -/
theorem flatMap_windows (xs : List α) (size number count : Nat)
    (hall : xs.length ≤ (number + count) * size) :
    (List.range' number count).flatMap (windowOf xs size)
      = xs.drop (number * size) := by
  induction count generalizing number with
  | zero =>
      rw [List.range'_zero, List.flatMap_nil, List.drop_eq_nil_of_le]
      simpa using hall
  | succ count ih =>
      have hrest : xs.length ≤ (number + 1 + count) * size := by
        rwa [Nat.add_right_comm]
      rw [List.range'_succ, List.flatMap_cons, ih (number + 1) hrest,
        Nat.succ_mul, ← List.drop_drop]
      exact List.take_append_drop size _

/-- A window behind the largest word is as empty as one there. -/
theorem window_min (hlength : xs.length ≤ total) (offset : Nat) :
    window (min offset total) size xs = window offset size xs := by
  unfold window
  rcases Nat.le_total offset total with hle | hle
  · rw [Nat.min_eq_left hle]
  · rw [Nat.min_eq_right hle, List.drop_eq_nil_of_le hlength,
      List.drop_eq_nil_of_le (Nat.le_trans hlength hle)]

end BatchAdmin.Page
