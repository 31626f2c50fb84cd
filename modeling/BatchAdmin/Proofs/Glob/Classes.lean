/-
What a class makes of the characters in it.

A class in brackets is meant to list the characters of its body, the
hyphen being the only one with a meaning of its own. The reader gives
this meaning to a second sign: two hyphens in a row, behind something
else, end the list and take out of it what stands behind them.

So a body is cut at its first pair of hyphens behind its front
(`exists_apart`). What stands in front of the pair is read as if nothing
followed (`items_append`), and every character of a body that is no
hyphen is an end of a range that the reader makes of it
(`mem_iff_bounds`), listed in front of the pair and removed behind it.
`Subtracts` says of a body that there is something to list and something
to remove, and this is all that can go wrong with a class
(`lists_own_characters_iff`).
-/
import BatchAdmin.Proofs.Glob.Reading
import Mathlib.Data.List.TakeWhile

namespace BatchAdmin.Glob

open Regex

variable {s body front back : List Char} {c : Char}

-- ============================================================== the bodies

/-- Two hyphens stand in the body, with characters other than hyphens on
both sides. -/
def Subtracts (body : List Char) : Prop :=
  ∃ front back, body = front ++ '-' :: '-' :: back
    ∧ (∃ c ∈ front, c ≠ '-') ∧ ∃ c ∈ back, c ≠ '-'

/-- A body in front of its first pair of hyphens. -/
def Whole (front : List Char) : Prop :=
  Plain front ∧ front.getLast? ≠ some '-'

theorem Whole.tail {x : Char} (h : Whole (x :: front)) : Whole front := by
  refine ⟨h.1.tail, fun hlast => h.2 ?_⟩
  rw [List.getLast?_cons, hlast]
  rfl

/-- A body with a pair of hyphens has a first one. -/
theorem exists_apart (h : ¬ Plain body) :
    ∃ front back, body = front ++ '-' :: '-' :: back ∧ Whole front := by
  induction body with
  | nil => exact absurd (by decide) h
  | cons x body ih =>
      by_cases hpair : ∃ back, x :: body = '-' :: '-' :: back
      · obtain ⟨back, hpair⟩ := hpair
        exact ⟨[], back, hpair, by decide, nofun⟩
      · have hrest : ¬ Plain body := by
          refine fun hplain => h fun hi => ?_
          rcases List.infix_cons_iff.1 hi with ⟨back, hprefix⟩ | hi
          · exact hpair ⟨back, hprefix.symm⟩
          · exact hplain hi
        obtain ⟨front, back, rfl, hplain, hlast⟩ := ih hrest
        refine ⟨x :: front, back, rfl, fun hi => ?_, fun hx => ?_⟩
        · rcases List.infix_cons_iff.1 hi with ⟨more, hprefix⟩ | hi
          · refine hpair ⟨more ++ '-' :: '-' :: back, ?_⟩
            rw [← List.cons_append, ← hprefix]
            rfl
          · exact hplain hi
        · cases front with
          | nil =>
              obtain rfl : x = '-' := by simpa using hx
              exact hpair ⟨'-' :: back, rfl⟩
          | cons y front => exact hlast (by simpa using hx)

/-- What stands behind any pair of hyphens stands behind the first. -/
theorem Whole.suffix (hw : Whole front) {f b : List Char}
    (h : front ++ '-' :: '-' :: back = f ++ '-' :: '-' :: b) :
    b <:+ back := by
  rcases List.append_eq_append_iff.1 h with ⟨more, rfl, hb⟩ | ⟨more, rfl, hb⟩
  · match more, hb with
    | [], hb =>
        obtain rfl : back = b := by simpa using hb
        exact List.suffix_refl _
    | [x], hb =>
        obtain ⟨-, hback⟩ : '-' = x ∧ back = '-' :: b := by simpa using hb
        exact ⟨['-'], hback.symm⟩
    | x :: y :: more, hb =>
        obtain ⟨-, -, hback⟩ : '-' = x ∧ '-' = y
          ∧ back = more ++ '-' :: '-' :: b := by simpa using hb
        exact ⟨more ++ ['-', '-'], by rw [hback]; simp⟩
  · match more, hb with
    | [], hb =>
        obtain rfl : b = back := by simpa using hb
        exact List.suffix_refl _
    | [x], hb =>
        obtain ⟨rfl, -⟩ : '-' = x ∧ b = '-' :: back := by simpa using hb
        exact absurd List.getLast?_concat hw.2
    | x :: y :: more, hb =>
        obtain ⟨rfl, rfl, -⟩ : '-' = x ∧ '-' = y
          ∧ b = more ++ '-' :: '-' :: back := by simpa using hb
        exact absurd ⟨f, more, by simp⟩ hw.1

-- =============================================================== the items

@[simp] theorem items_minus (rest : List Char) :
    items ('-' :: '-' :: rest) = .minus :: items rest := by
  rw [items.eq_def]
  exact if_pos ⟨rfl, rfl⟩

theorem items_range {x y : Char} (hx : x ≠ '-') (hy : y ≠ '-')
    (rest : List Char) :
    items (x :: '-' :: y :: rest)
      = .range ⟨x, y⟩ :: items rest := by
  rw [items.eq_def]
  exact (if_neg fun h => hx h.1).trans (if_pos ⟨hx, rfl, by simpa using hy⟩)

theorem items_itself {x y : Char} {rest : List Char}
    (hpair : ¬ (x = '-' ∧ y = '-'))
    (hrange : ¬ (x ≠ '-' ∧ y = '-' ∧ rest.head? ≠ some '-')) :
    items (x :: y :: rest) = .range ⟨x, x⟩ :: items (y :: rest) := by
  rw [items.eq_def]
  exact (if_neg hpair).trans (if_neg hrange)

/-- In front of a pair of hyphens a body is read as if it ended there. -/
theorem items_append (hw : Whole front) (back : List Char) :
    items (front ++ '-' :: '-' :: back)
      = items front ++ .minus :: items back := by
  fun_induction items front with
  | case1 => exact items_minus back
  | case2 x =>
      have hx : x ≠ '-' := fun h => hw.2 (by rw [h]; rfl)
      rw [List.cons_append, List.nil_append,
        items_itself (by simp [hx]) (by simp), items_minus]
      rfl
  | case3 x y rest h ih =>
      obtain ⟨rfl, rfl⟩ := h
      exact absurd rfl hw.1.ne
  | case4 x y _ e rest h ih =>
      obtain ⟨hx, rfl, he⟩ := h
      have hrest := ih hw.tail.tail.tail
      rw [List.cons_append, List.cons_append, List.cons_append,
        items_range hx (by simpa using he), hrest]
      rfl
  | case5 x y _ h => exact absurd (by simp [h.2.1]) hw.2
  | case6 x y rest hpair h ih =>
      have hrest := ih hw.tail
      have hno : ¬ (x ≠ '-' ∧ y = '-'
          ∧ (rest ++ '-' :: '-' :: back).head? ≠ some '-') := by
        intro h
        obtain ⟨hx, rfl, hhead⟩ := h
        cases rest with
        | nil => exact hhead rfl
        | cons e rest => exact h ⟨hx, rfl, hhead⟩
      rw [List.cons_append, List.cons_append, items_itself hpair hno,
        ← List.cons_append, hrest]
      rfl

/-- The character is an end of the range. -/
def Bounds (r : CharRange) (c : Char) : Prop :=
  c = r.low ∨ c = r.high

/-- An end of a range that is in order lies in it. -/
theorem Bounds.has {r : CharRange} (h : Bounds r c) (hr : r.low ≤ r.high) :
    r.has c = true := by
  obtain rfl | rfl := h
  · simp [CharRange.has, hr]
  · simp [CharRange.has, hr]

/-- The characters of a body other than hyphens are the ends of the
ranges that it is read as. -/
theorem mem_iff_bounds (hc : c ≠ '-') :
    c ∈ body ↔ ∃ r ∈ rangesOf (items body), Bounds r c := by
  fun_induction items body with
  | case1 => simp [rangesOf]
  | case2 x => simp [rangesOf, Bounds]
  | case3 x y rest h ih =>
      obtain ⟨rfl, rfl⟩ := h
      simpa [rangesOf, hc] using ih
  | case4 x y _ e rest h ih =>
      obtain ⟨-, rfl, -⟩ := h
      simpa [rangesOf, hc, Bounds, or_assoc] using
        or_congr_right (or_congr_right ih)
  | case5 x y _ h =>
      obtain ⟨-, rfl, -⟩ := h
      simp [rangesOf, Bounds]
  | case6 x y rest _ _ ih =>
      simpa [rangesOf, Bounds] using or_congr_right ih

/-- Ranges in order have every character of a body that they were read
from. -/
theorem any_has {rs : List CharRange}
    (hp : Regex.InOrder (rangesOf (items body)))
    (hrs : rangesOf (items body) ⊆ rs) (hc : c ≠ '-') (hmem : c ∈ body) :
    rs.any (·.has c) = true := by
  obtain ⟨r, hr, hbounds⟩ := (mem_iff_bounds hc).1 hmem
  exact List.any_eq_true.2 ⟨r, hrs hr, hbounds.has (hp r hr)⟩

/-- The ranges that a body of hyphens is read as have nothing else. -/
theorem not_any_has (hbody : ∀ x ∈ body, x = '-') (hc : c ≠ '-') :
    (rangesOf (items body)).any (·.has c) = false := by
  rw [List.any_eq_false]
  intro r hr hin
  have hlow : r.low = '-' := by_contra fun hne =>
    hne (hbody _ ((mem_iff_bounds hne).2 ⟨r, hr, .inl rfl⟩))
  have hhigh : r.high = '-' := by_contra fun hne =>
    hne (hbody _ ((mem_iff_bounds hne).2 ⟨r, hr, .inr rfl⟩))
  have hbetween : '-' ≤ c ∧ c ≤ '-' := by
    simpa [CharRange.has, hlow, hhigh] using hin
  exact hc (Char.le_antisymm hbetween.2 hbetween.1)

-- ============================================================= the classes

theorem mem_core (hc : c ≠ '-') : c ∈ core body ↔ c ∈ body := by
  have hfront : c ∉ body.takeWhile (· == '-') := fun h =>
    hc (by simpa using List.mem_takeWhile_imp h)
  have hbody := List.takeWhile_append_dropWhile (p := (· == '-')) (l := body)
  constructor
  · intro h
    rw [← hbody]
    exact List.mem_append_right _ h
  · intro h
    rw [← hbody] at h
    exact (List.mem_append.1 h).resolve_left hfront

theorem head?_core (body : List Char) : (core body).head? ≠ some '-' := by
  intro h
  have := List.head?_dropWhile_not (· == '-') body
  rw [show (body.dropWhile (· == '-')).head? = some '-' from h] at this
  cases this

/-- The front ends at a character that is no hyphen. -/
theorem core_append (hfront : ∃ x ∈ front, x ≠ '-') (rest : List Char) :
    core (front ++ rest) = core front ++ rest := by
  obtain ⟨x, hmem, hx⟩ := hfront
  unfold core
  rw [List.dropWhile_append, if_neg]
  rw [List.isEmpty_iff]
  exact List.ne_nil_of_mem ((mem_core hx).2 hmem)

/-- Hyphens at the front do not matter to what a body subtracts. -/
theorem subtracts_core : Subtracts (core body) ↔ Subtracts body := by
  constructor
  · intro h
    obtain ⟨front, back, hinner, ⟨c, hfront, hc⟩, hback⟩ := h
    refine ⟨body.takeWhile (· == '-') ++ front, back, ?_,
      ⟨c, List.mem_append_right _ hfront, hc⟩, hback⟩
    rw [List.append_assoc, ← hinner]
    exact List.takeWhile_append_dropWhile.symm
  · intro h
    obtain ⟨front, back, rfl, hfront, hback⟩ := h
    refine ⟨core front, back, core_append hfront _, ?_, hback⟩
    obtain ⟨c, hmem, hc⟩ := hfront
    exact ⟨c, (mem_core hc).2 hmem, hc⟩

/-- Without a pair of hyphens a class removes nothing. -/
theorem removed_plain (hp : Plain (core body)) :
    removed body = [] ∧ rangesOf (items (core body)) ⊆ named body := by
  obtain ⟨hkept, hnone⟩ := split_items (lists_items hp).2
  unfold removed named
  rw [hkept, hnone]
  exact ⟨rfl, List.subset_append_right _ _⟩

/-- A class names what stands in front of its first pair of hyphens and
removes what stands behind it; the ranges of both are in order if those of
the class are. -/
theorem removed_apart (hw : Whole front)
    (hbody : core body = front ++ '-' :: '-' :: back) :
    removed body = rangesOf (items back)
      ∧ rangesOf (items front) ⊆ named body
      ∧ (Regex.InOrder (rangesOf (items (core body))) →
          Regex.InOrder (rangesOf (items front))
            ∧ Regex.InOrder (rangesOf (items back))) := by
  have hitems : items (core body)
      = items front ++ .minus :: items back := by
    rw [hbody, items_append hw]
  have hall : ∀ item ∈ items front, (item != .minus) = true := by
    intro item hmem
    rw [bne_iff_ne]
    intro hminus
    exact (lists_items hw.1).2 (hminus ▸ hmem)
  have hnamed : (items (core body)).takeWhile (· != .minus)
      = items front := by
    rw [hitems, List.takeWhile_append_of_pos hall,
      List.takeWhile_cons_of_neg (by decide), List.append_nil]
  have hremoved : (items (core body)).dropWhile (· != .minus)
      = .minus :: items back := by
    rw [hitems, List.dropWhile_append_of_pos hall,
      List.dropWhile_cons_of_neg (by decide)]
  have hranges : rangesOf (items (core body))
      = rangesOf (items front) ++ rangesOf (items back) := by
    rw [hitems]
    exact List.filterMap_append
  unfold removed named
  rw [hnamed, hremoved, hranges]
  refine ⟨rfl, List.subset_append_right _ _, fun hp => ⟨?_, ?_⟩⟩
  · exact fun r hr => hp r (List.mem_append_left _ hr)
  · exact fun r hr => hp r (List.mem_append_right _ hr)

/-- A class lists every character of a body that does not subtract. -/
theorem lists_of_not_subtracts (hs : ¬ Subtracts body)
    (hp : Regex.InOrder (rangesOf (items (core body)))) (hc : c ≠ '-')
    (hmem : c ∈ body) : lists body c = true := by
  have hinner := (mem_core hc).2 hmem
  unfold lists
  by_cases hplain : Plain (core body)
  · obtain ⟨hremoved, hranges⟩ := removed_plain hplain
    rw [any_has hp hranges hc hinner, hremoved]
    rfl
  · obtain ⟨front, back, hbody, hw⟩ := exists_apart hplain
    obtain ⟨hremoved, hranges, horder⟩ := removed_apart hw hbody
    have hfront : ∃ x ∈ front, x ≠ '-' := by
      cases front with
      | nil => exact absurd (by rw [hbody]; rfl) (head?_core body)
      | cons x front =>
          refine ⟨x, List.mem_cons_self, fun hx => ?_⟩
          subst hx
          exact head?_core body (by rw [hbody]; rfl)
    have hback : ∀ x ∈ back, x = '-' := fun x hx => by_contra fun hne =>
      hs (subtracts_core.1 ⟨front, back, hbody, hfront, x, hx, hne⟩)
    have hpart : c ∈ front := by
      rw [hbody] at hinner
      obtain h | h := List.mem_append.1 hinner
      · exact h
      · simp only [List.mem_cons, hc, false_or] at h
        exact absurd (hback c h) hc
    have hnone : (removed body).any (·.has c) = false := by
      rw [hremoved]
      exact not_any_has hback hc
    rw [any_has (horder hp).1 hranges hc hpart, hnone]
    rfl

/-- A class does not list what a pair of hyphens takes out of it. -/
theorem not_lists_behind
    (hp : Regex.InOrder (rangesOf (items (core body))))
    (hbody : body = front ++ '-' :: '-' :: back)
    (hfront : ∃ x ∈ front, x ≠ '-') (hc : c ≠ '-') (hmem : c ∈ back) :
    lists body c = false := by
  have hinner := hbody ▸ core_append hfront ('-' :: '-' :: back)
  have hpair : ¬ Plain (core body) := fun hplain =>
    hplain ⟨core front, back, by rw [hinner]; simp⟩
  obtain ⟨first, rest, hsplit, hw⟩ := exists_apart hpair
  obtain ⟨hremoved, -, horder⟩ := removed_apart hw hsplit
  have hrest : c ∈ rest :=
    (hw.suffix (hsplit.symm.trans hinner)).subset hmem
  have hany : (removed body).any (·.has c) = true := by
    rw [hremoved]
    exact any_has (horder hp).2 (List.Subset.refl _) hc hrest
  unfold lists
  rw [hany]
  exact Bool.and_false _

-- ============================================================ the patterns

/-- A pattern that is one class is accepted if its ranges are in order,
and read as this class. -/
theorem read_bracket {negated : Bool} {pattern : String} {g : Glob}
    (hl : (Sign.bracket negated body).Legible)
    (hspell : (Sign.bracket negated body).spelled = pattern.toList) :
    Glob.read pattern = .ok g
      ↔ g = ⟨pattern, whole [.oneOf (classSet negated body)]⟩
          ∧ Regex.InOrder (rangesOf (items (core body))) := by
  have hs : Spells [.bracket negated body] pattern.toList := by
    rw [← hspell, ← List.append_nil (Sign.spelled _)]
    exact spells_nil.cons hl
  have hne : pattern ≠ "" := by
    intro hempty
    rw [hempty] at hspell
    cases negated <;> cases hspell
  constructor
  · intro hread
    obtain ⟨hord, hg⟩ := read_of_spells hread hs
    exact ⟨hg, hord _ List.mem_cons_self⟩
  · intro h
    obtain ⟨rfl, hord⟩ := h
    exact read_eq_ok.2 ⟨hne, _, hs, List.forall_mem_singleton.2 hord, rfl⟩

/-- A pattern that is one class matches the characters that are listed, or
those that are not. -/
theorem matches_bracket (source : String) (negated : Bool)
    (body : List Char) (c : Char) :
    Glob.matches ⟨source, whole [.oneOf (classSet negated body)]⟩
        (String.singleton c)
      = (lists body c != negated) := by
  rw [Bool.eq_iff_iff, matches_whole, String.toList_singleton,
    fits_single_cons (by nofun), fits_nil, and_iff_left rfl, ← has_classSet]
  rfl

/-- A class that is accepted takes each character of its body other than
the hyphen, and its opposite takes none of them, exactly if no pair of
hyphens subtracts something from something else in the body. -/
theorem lists_own_characters_iff (s : String) (hne : s ≠ "")
    (hclose : ']' ∉ s.toList) (hfront : s.toList.head? ≠ some '!') :
    (∀ g, Glob.read ("[" ++ s ++ "]") = .ok g →
        ((∀ c ∈ s.toList, c ≠ '-' → g.matches (String.singleton c) = true)
          ↔ ¬ Subtracts s.toList))
      ∧ ∀ g, Glob.read ("[!" ++ s ++ "]") = .ok g →
        ((∀ c ∈ s.toList, c ≠ '-' → g.matches (String.singleton c) = false)
          ↔ ¬ Subtracts s.toList) := by
  have hlegible : ∀ negated, (Sign.bracket negated s.toList).Legible :=
    fun _ => ⟨by simpa using hne, hclose, fun _ => hfront⟩
  have hlisted : Regex.InOrder (rangesOf (items (core s.toList))) →
      ((∀ c ∈ s.toList, c ≠ '-' → lists s.toList c = true)
        ↔ ¬ Subtracts s.toList) := by
    intro hp
    constructor
    · intro hall hsub
      obtain ⟨front, back, hbody, hfront, c, hmem, hc⟩ := hsub
      have hin : c ∈ s.toList := by
        rw [hbody]
        simp [hmem]
      have hno := not_lists_behind hp hbody hfront hc hmem
      exact absurd (hall c hin hc) (by rw [hno]; decide)
    · exact fun hs c hmem hc => lists_of_not_subtracts hs hp hc hmem
  refine ⟨fun g hread => ?_, fun g hread => ?_⟩
  · obtain ⟨rfl, hp⟩ := (read_bracket (hlegible false)
      (by simp [Sign.spelled])).1 hread
    rw [← hlisted hp]
    simp only [matches_bracket, Bool.bne_false]
  · obtain ⟨rfl, hp⟩ := (read_bracket (hlegible true)
      (by simp [Sign.spelled])).1 hread
    rw [← hlisted hp]
    simp only [matches_bracket, Bool.bne_true, Bool.not_eq_false']

/-- A body of signs that are operators elsewhere, and of a hyphen. -/
def operatorBody : String := "&&~~[^\\:-"

theorem toList_operatorBody : operatorBody.toList
    = ['&', '&', '~', '~', '[', '^', '\\', ':', '-'] := by
  decide

/-- The class with this body takes all of them and the opposite class
none. -/
theorem operatorBody_listed :
    operatorBody ≠ "" ∧ ']' ∉ operatorBody.toList
      ∧ operatorBody.toList.head? ≠ some '!'
      ∧ (∃ g, Glob.read ("[" ++ operatorBody ++ "]") = .ok g
          ∧ ∀ c ∈ operatorBody.toList, c ≠ '-' →
              g.matches (String.singleton c) = true)
      ∧ ∃ g, Glob.read ("[!" ++ operatorBody ++ "]") = .ok g
          ∧ ∀ c ∈ operatorBody.toList, c ≠ '-' →
              g.matches (String.singleton c) = false := by
  have hne : operatorBody ≠ "" := by decide
  have hclose : ']' ∉ operatorBody.toList := by
    rw [toList_operatorBody]
    decide
  have hfront : operatorBody.toList.head? ≠ some '!' := by
    rw [toList_operatorBody]
    decide
  have hwhole : ¬ Subtracts operatorBody.toList := by
    intro hsub
    obtain ⟨front, back, hsplit, -, -⟩ := hsub
    have hplain : Plain operatorBody.toList := by
      rw [toList_operatorBody]
      decide
    exact hplain ⟨front, back, by rw [hsplit]; simp⟩
  have hlegible : ∀ negated,
      (Sign.bracket negated operatorBody.toList).Legible :=
    fun _ => ⟨by simpa using hne, hclose, fun _ => hfront⟩
  have hown : Glob.read ("[" ++ operatorBody ++ "]") = .ok _ :=
    (read_bracket (hlegible false) (by simp [Sign.spelled])).2
      ⟨rfl, by rw [toList_operatorBody]; decide⟩
  have hother : Glob.read ("[!" ++ operatorBody ++ "]") = .ok _ :=
    (read_bracket (hlegible true) (by simp [Sign.spelled])).2
      ⟨rfl, by rw [toList_operatorBody]; decide⟩
  obtain ⟨htakes, hleaves⟩ :=
    lists_own_characters_iff operatorBody hne hclose hfront
  exact ⟨hne, hclose, hfront, ⟨_, hown, (htakes _ hown).2 hwhole⟩,
    _, hother, (hleaves _ hother).2 hwhole⟩

/-- A character that is listed in front of a pair of hyphens and behind it
is not in the class, and the opposite class takes it. -/
theorem hyphens_remove :
    (∃ g, Glob.read ("[" ++ "ab--b" ++ "]") = .ok g
        ∧ g.matches (String.singleton 'b') = false)
      ∧ ∃ g, Glob.read ("[!" ++ "ab--b" ++ "]") = .ok g
        ∧ g.matches (String.singleton 'b') = true := by
  have hlegible : ∀ negated,
      (Sign.bracket negated ['a', 'b', '-', '-', 'b']).Legible :=
    fun _ => ⟨by decide, by decide, fun _ => by decide⟩
  refine ⟨⟨_, (read_bracket (hlegible false) (by decide)).2 ⟨rfl, ?_⟩, ?_⟩,
    _, (read_bracket (hlegible true) (by decide)).2 ⟨rfl, ?_⟩, ?_⟩
  · decide
  · rw [matches_bracket]
    decide
  · decide
  · rw [matches_bracket]
    decide

end BatchAdmin.Glob
