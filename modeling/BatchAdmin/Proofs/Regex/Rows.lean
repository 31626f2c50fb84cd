/-
Searching by rows finds every part.

What an expression takes is said without rows (`Takes`): each element takes
its share of the text and leaves the rest to the elements behind it, and an
anchor takes nothing and asks where it stands. An expression matches a text
if it takes some part of it, wherever this begins and ends (`Found`).

The search keeps a row of truth values for each place. `RowOf` says what a
row means: for every tail of the expression, whether it takes a part that
begins at this place (`Starts`). At the end of the text a row has this
meaning whatever is given as the row behind it, and elsewhere if the row
behind it has it (`rowOf_rowAt_nil`, `RowOf.rowAt_cons`), so the search
answers by the first entries of all rows (`isMatch_iff_found`).
-/
import BatchAdmin.Regex.Search
import Mathlib.Data.List.Forall2
import Mathlib.Data.List.Infix

namespace BatchAdmin.Regex

variable {es re : Regex} {a : Atom} {e : Element} {c d : Char}
  {rest text : List Char} {first : Bool} {next : Option Char}
  {row : List Bool}

-- ============================================================== the meaning

/-- The elements take the part, with `after` behind it; `first` says that
nothing stands in front of it. -/
inductive Takes : Regex → Bool → List Char → List Char → Prop
  | nil {first : Bool} {after : List Char} : Takes [] first [] after
  | one {a : Atom} {es : Regex} {first : Bool} {c : Char}
      {part after : List Char} : a.takes c = true →
      Takes es false part after → Takes (.one a :: es) first (c :: part) after
  | done {a : Atom} {es : Regex} {first : Bool} {part after : List Char} :
      Takes es first part after → Takes (.many a :: es) first part after
  | more {a : Atom} {es : Regex} {first : Bool} {c : Char}
      {part after : List Char} : a.takes c = true →
      Takes (.many a :: es) false part after →
      Takes (.many a :: es) first (c :: part) after
  | start {es : Regex} {part after : List Char} : Takes es true part after →
      Takes (.start :: es) true part after
  | stop {es : Regex} {first : Bool} : Takes es first [] [] →
      Takes (.stop :: es) first [] []

/-- The expression takes a part of the text. -/
def Found (re : Regex) (text : List Char) : Prop :=
  ∃ before part after, text = before ++ part ++ after
    ∧ Takes re before.isEmpty part after

/-- The elements take a part in front of the text. -/
def Starts (es : Regex) (first : Bool) (rest : List Char) : Prop :=
  ∃ part after, rest = part ++ after ∧ Takes es first part after

-- --------------------------------------------- the elements one by one

theorem starts_nil : Starts [] first rest :=
  ⟨[], rest, rfl, .nil⟩

theorem starts_one_nil : ¬ Starts (.one a :: es) first [] := by
  intro h
  obtain ⟨part, after, hrest, ht⟩ := h
  cases ht with
  | one _ _ => cases hrest

theorem starts_one_cons : Starts (.one a :: es) first (d :: rest)
    ↔ a.takes d = true ∧ Starts es false rest := by
  constructor
  · intro h
    obtain ⟨part, after, hrest, ht⟩ := h
    cases ht with
    | one hc ht =>
        obtain ⟨rfl, rfl⟩ := List.cons_eq_cons.1 hrest
        exact ⟨hc, _, after, rfl, ht⟩
  · intro h
    obtain ⟨hd, part, after, rfl, ht⟩ := h
    exact ⟨d :: part, after, rfl, .one hd ht⟩

/-- At the end of the text a star takes nothing. -/
theorem starts_many_nil :
    Starts (.many a :: es) first [] ↔ Starts es first [] := by
  constructor
  · intro h
    obtain ⟨part, after, hrest, ht⟩ := h
    cases ht with
    | done ht => exact ⟨part, after, hrest, ht⟩
    | more _ _ => cases hrest
  · intro h
    obtain ⟨part, after, hrest, ht⟩ := h
    exact ⟨part, after, hrest, .done ht⟩

/-- A star takes nothing, or the next character and then goes on. -/
theorem starts_many_cons : Starts (.many a :: es) first (d :: rest)
    ↔ Starts es first (d :: rest)
      ∨ (a.takes d = true ∧ Starts (.many a :: es) false rest) := by
  constructor
  · intro h
    obtain ⟨part, after, hrest, ht⟩ := h
    cases ht with
    | done ht => exact .inl ⟨part, after, hrest, ht⟩
    | more hc ht =>
        obtain ⟨rfl, rfl⟩ := List.cons_eq_cons.1 hrest
        exact .inr ⟨hc, _, after, rfl, ht⟩
  · intro h
    obtain ⟨part, after, hrest, ht⟩ | ⟨hd, part, after, rfl, ht⟩ := h
    · exact ⟨part, after, hrest, .done ht⟩
    · exact ⟨d :: part, after, rfl, .more hd ht⟩

theorem starts_start :
    Starts (.start :: es) first rest ↔ first = true ∧ Starts es first rest := by
  constructor
  · intro h
    obtain ⟨part, after, hrest, ht⟩ := h
    cases ht with
    | start ht => exact ⟨rfl, part, after, hrest, ht⟩
  · intro h
    obtain ⟨rfl, part, after, hrest, ht⟩ := h
    exact ⟨part, after, hrest, .start ht⟩

theorem starts_stop :
    Starts (.stop :: es) first rest ↔ rest = [] ∧ Starts es first rest := by
  constructor
  · intro h
    obtain ⟨part, after, hrest, ht⟩ := h
    cases ht with
    | stop ht => exact ⟨hrest, [], [], hrest, ht⟩
  · intro h
    obtain ⟨rfl, part, after, hrest, ht⟩ := h
    obtain ⟨rfl, rfl⟩ := List.append_eq_nil_iff.1 hrest.symm
    exact ⟨[], [], rfl, .stop ht⟩

-- ================================================================ the rows

/-- For every tail of the expression the row says whether it takes a part
in front of the text. -/
def RowOf (es : Regex) (first : Bool) (rest : List Char) (row : List Bool) :
    Prop :=
  List.Forall₂ (fun tail b => b = true ↔ Starts tail first rest) es.tails row

theorem rowOf_nil : RowOf [] first rest [true] :=
  .cons (iff_of_true rfl starts_nil) .nil

theorem RowOf.cons {b : Bool} (hb : b = true ↔ Starts (e :: es) first rest)
    (hr : RowOf es first rest row) : RowOf (e :: es) first rest (b :: row) := by
  unfold RowOf
  rw [List.tails_cons]
  exact .cons hb hr

/-- The first entry of a row is about the whole expression. -/
theorem RowOf.headD (hr : RowOf es first rest row) :
    row.headD false = true ↔ Starts es first rest := by
  unfold RowOf at hr
  cases es with
  | nil =>
      cases hr with
      | cons hb _ => exact hb
  | cons e es =>
      rw [List.tails_cons] at hr
      cases hr with
      | cons hb _ => exact hb

/-- The other entries are a row for the rest of the expression. -/
theorem RowOf.tail (hr : RowOf (e :: es) first rest row) :
    RowOf es first rest row.tail := by
  unfold RowOf at hr
  rw [List.tails_cons] at hr
  cases hr with
  | cons _ hrest => exact hrest

/-- The row of the end of a text. -/
theorem rowOf_rowAt_nil (first : Bool) : ∀ (es : Regex) (row : List Bool),
    RowOf es first [] (rowAt first none es row)
  | [], _ => rowOf_nil
  | e :: es, row => by
      have behind := rowOf_rowAt_nil first es row.tail
      refine .cons ?_ behind
      cases e with
      | one a => exact iff_of_false Bool.false_ne_true starts_one_nil
      | many a =>
          show ((rowAt first none es row.tail).headD false || false) = true ↔ _
          rw [Bool.or_false, behind.headD, starts_many_nil]
      | start =>
          rw [Bool.and_eq_true, behind.headD, starts_start]
      | stop =>
          rw [Bool.and_eq_true, behind.headD, starts_stop]
          exact and_congr_left' (iff_of_true rfl rfl)

/-- The row of a place in front of a character, by the row behind it. -/
theorem RowOf.rowAt_cons (first : Bool) (d : Char) :
    ∀ {es : Regex} {row : List Bool}, RowOf es false rest row →
      RowOf es first (d :: rest) (rowAt first (some d) es row)
  | [], _, _ => rowOf_nil
  | e :: es, row, hr => by
      have behind := hr.tail.rowAt_cons first d
      refine .cons ?_ behind
      cases e with
      | one a =>
          show (a.takes d && row.tail.headD false) = true ↔ _
          rw [Bool.and_eq_true, hr.tail.headD, starts_one_cons]
      | many a =>
          show ((rowAt first (some d) es row.tail).headD false
            || (a.takes d && row.headD false)) = true ↔ _
          rw [Bool.or_eq_true, Bool.and_eq_true, behind.headD, hr.headD,
            starts_many_cons]
      | start =>
          rw [Bool.and_eq_true, behind.headD, starts_start]
      | stop =>
          rw [Bool.and_eq_true, behind.headD, starts_stop]
          exact and_congr_left' (iff_of_false nofun nofun)

-- ============================================================== the search

/-- A part is found at the first place of the text or further on. -/
theorem found_iff : Found re text
    ↔ Starts re true text
      ∨ ∃ before rest, before ≠ [] ∧ text = before ++ rest
          ∧ Starts re false rest := by
  constructor
  · intro h
    obtain ⟨before, part, after, rfl, ht⟩ := h
    by_cases hb : before = []
    · subst hb
      exact .inl ⟨part, after, rfl, ht⟩
    · rw [List.isEmpty_eq_false_iff.2 hb] at ht
      exact .inr ⟨before, part ++ after, hb, List.append_assoc .., part,
        after, rfl, ht⟩
  · intro h
    obtain ⟨part, after, rfl, ht⟩ | ⟨before, rest, hb, rfl, part, after, rfl,
      ht⟩ := h
    · exact ⟨[], part, after, rfl, ht⟩
    · refine ⟨before, part, after, (List.append_assoc ..).symm, ?_⟩
      rw [List.isEmpty_eq_false_iff.2 hb]
      exact ht

/-- The elements take a part that begins somewhere in the text, which is
not the first place. -/
def Later (re : Regex) (rest : List Char) : Prop :=
  ∃ before behind, rest = before ++ behind ∧ Starts re false behind

theorem later_nil : Later re [] ↔ Starts re false [] := by
  constructor
  · intro h
    obtain ⟨before, behind, hrest, hs⟩ := h
    obtain ⟨rfl, rfl⟩ := List.append_eq_nil_iff.1 hrest.symm
    exact hs
  · intro h
    exact ⟨[], [], rfl, h⟩

theorem later_cons :
    Later re (d :: rest) ↔ Starts re false (d :: rest) ∨ Later re rest := by
  constructor
  · intro h
    obtain ⟨before, behind, hrest, hs⟩ := h
    cases before with
    | nil => exact .inl (hrest ▸ hs)
    | cons c before =>
        obtain ⟨rfl, rfl⟩ := List.cons_eq_cons.1 hrest
        exact .inr ⟨before, behind, rfl, hs⟩
  · intro h
    obtain hs | ⟨before, behind, rfl, hs⟩ := h
    · exact ⟨[], d :: rest, rfl, hs⟩
    · exact ⟨d :: before, behind, rfl, hs⟩

/-- A text has a part that begins at its first place, or one that begins
behind its first character. -/
theorem found_cons :
    Found re (d :: rest) ↔ Starts re true (d :: rest) ∨ Later re rest := by
  rw [found_iff]
  refine or_congr_right ⟨fun h => ?_, fun h => ?_⟩
  · obtain ⟨before, behind, hb, hrest, hs⟩ := h
    cases before with
    | nil => exact absurd rfl hb
    | cons c before =>
        obtain ⟨rfl, rfl⟩ := List.cons_eq_cons.1 hrest
        exact ⟨before, behind, rfl, hs⟩
  · obtain ⟨before, behind, rfl, hs⟩ := h
    exact ⟨d :: before, behind, List.cons_ne_nil _ _, rfl, hs⟩

theorem found_nil : Found re [] ↔ Starts re true [] := by
  rw [found_iff, or_iff_left]
  intro h
  obtain ⟨before, behind, hb, hrest, -⟩ := h
  exact hb (List.append_eq_nil_iff.1 hrest.symm).1

/-- The rows from the end of a text on. -/
theorem rowsFrom_spec (re : Regex) (rest : List Char) :
    RowOf re false rest (rowsFrom re rest).1
      ∧ ((rowsFrom re rest).2 = true ↔ Later re rest) := by
  induction rest with
  | nil =>
      have hrow := rowOf_rowAt_nil false re []
      exact ⟨hrow, hrow.headD.trans later_nil.symm⟩
  | cons d rest ih =>
      obtain ⟨hbehind, hfound⟩ := ih
      have hrow := hbehind.rowAt_cons false d
      refine ⟨hrow, ?_⟩
      show ((rowAt false (some d) re _).headD false || _) = true ↔ _
      rw [Bool.or_eq_true, hrow.headD, hfound, later_cons]

/-- The search finds a part exactly if the expression takes one. -/
theorem isMatch_iff_found : isMatch re text = true ↔ Found re text := by
  cases text with
  | nil =>
      rw [found_nil]
      exact (rowOf_rowAt_nil true re []).headD
  | cons d rest =>
      obtain ⟨hbehind, hfound⟩ := rowsFrom_spec re rest
      show ((rowAt true (some d) re _).headD false || _) = true ↔ _
      rw [Bool.or_eq_true, (hbehind.rowAt_cons true d).headD, hfound,
        found_cons]

end BatchAdmin.Regex
