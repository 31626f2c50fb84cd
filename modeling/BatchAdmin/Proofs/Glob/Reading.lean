/-
A pattern is read as what it says.

Where no two hyphens stand next to each other, a class is read as the
ranges and characters that its body lists, with nothing taken out of them
(`lists_iff_listed`), and it is in order if these ranges are
(`inOrder_iff_ordered`). So the piece of a sign takes what the sign takes.

Runs of stars that follow one another, in a text or because a writer joined
them, are one run (`splits_stars_stars`), and so the pieces fit a path
exactly if it is split along the signs (`fits_piecesOf`).

`read_iff_spelled_and_matches_iff_splits` is the whole of it: a text is a
pattern exactly if it is not empty, spelled by signs and in order, and the
pattern matches exactly the paths that are split along its signs. Nothing
of the expression in between, or of the sets and rows behind it, is left in
what it says.
-/
import BatchAdmin.Proofs.Glob.Compiling
import BatchAdmin.Proofs.Regex.Sets

namespace BatchAdmin.Glob

open Regex

variable {signs : List Sign} {path body : List Char}

-- ============================================================= the classes

/-- In a plain body the reader finds what it lists and no operator. -/
theorem lists_items {body : List Char} (hp : Plain body) :
    Lists body (rangesOf (items body))
      ∧ Item.minus ∉ items body := by
  fun_induction items body with
  | case1 => exact ⟨.nil, List.not_mem_nil⟩
  | case2 c =>
      refine ⟨.itself (.inr ?_) .nil, by simp⟩
      intro y more h
      cases h
  | case3 c d rest h ih =>
      obtain ⟨rfl, rfl⟩ := h
      exact absurd rfl hp.ne
  | case4 c d _ e rest h ih =>
      obtain ⟨hc, rfl, -⟩ := h
      obtain ⟨hl, hm⟩ := ih hp.tail.tail.tail
      exact ⟨.range hc hl, by simpa using hm⟩
  | case5 c d _ h =>
      obtain ⟨hc, rfl, -⟩ := h
      refine ⟨.itself (.inr ?_) (.itself (.inl rfl) .nil), by simp⟩
      intro y more h
      cases h
  | case6 c d rest hd h ih =>
      obtain ⟨hl, hm⟩ := ih hp.tail
      refine ⟨.itself ?_ hl, by simpa using hm⟩
      by_cases hc : c = '-'
      · exact .inl hc
      · refine .inr fun y more hrest => h ⟨hc, ?_, ?_⟩
        · exact (List.cons_eq_cons.1 hrest).1
        · obtain ⟨rfl, rfl⟩ := List.cons_eq_cons.1 hrest
          rw [List.head?_cons]
          exact fun hy => hp.tail.ne (Option.some.inj hy)

/-- Without an operator everything is in front of the first one. -/
theorem split_items {is : List Item} (h : Item.minus ∉ is) :
    is.takeWhile (· != .minus) = is ∧ is.dropWhile (· != .minus) = [] := by
  have hall : ∀ item ∈ is, (item != .minus) = true := by
    intro item hmem
    rw [bne_iff_ne]
    intro hminus
    exact h (hminus ▸ hmem)
  have hkept : is.takeWhile (· != .minus) = is := by
    rw [← List.append_nil is, List.takeWhile_append_of_pos hall]
    rfl
  refine ⟨hkept, ?_⟩
  rw [← List.append_nil is, List.dropWhile_append_of_pos hall]
  rfl

/-- A plain body has one hyphen at its front, or none. -/
theorem Plain.front (hp : Plain body) :
    (∃ rest, body = '-' :: rest ∧ core body = rest
        ∧ body.takeWhile (· == '-') = ['-'])
      ∨ (core body = body ∧ body.takeWhile (· == '-') = []) := by
  unfold core
  cases body with
  | nil => exact .inr ⟨rfl, rfl⟩
  | cons x rest =>
      by_cases hx : x = '-'
      · subst hx
        refine .inl ⟨rest, rfl, ?_⟩
        cases rest with
        | nil => exact ⟨rfl, rfl⟩
        | cons y rest => simp [hp.ne]
      · exact .inr (by simp [hx])

/-- A plain body names what it lists and takes nothing out. -/
theorem lists_named (hp : Plain body) :
    Lists body (named body) ∧ removed body = [] := by
  unfold named removed
  obtain ⟨rest, rfl, hinner, hfront⟩ | ⟨hinner, hfront⟩ := hp.front
  · obtain ⟨hl, hm⟩ := lists_items hp.tail
    obtain ⟨hkept, hnone⟩ := split_items hm
    rw [hfront, hinner, hkept, hnone]
    exact ⟨.itself (.inl rfl) hl, rfl⟩
  · obtain ⟨hl, hm⟩ := lists_items hp
    obtain ⟨hkept, hnone⟩ := split_items hm
    rw [hfront, hinner, hkept, hnone]
    exact ⟨hl, rfl⟩

/-- A class with a plain body has the characters that the body lists. -/
theorem lists_iff_listed (hp : Plain body) (c : Char) :
    lists body c = true ↔ Listed body c := by
  obtain ⟨hl, hnone⟩ := lists_named hp
  unfold lists
  rw [hnone, List.any_nil, Bool.not_false, Bool.and_true, List.any_eq_true]
  constructor
  · intro h
    obtain ⟨r, hmem, hr⟩ := h
    exact ⟨_, hl, r, hmem, by simpa [CharRange.has] using hr⟩
  · intro h
    obtain ⟨rs, hrs, r, hmem, hr⟩ := h
    exact ⟨r, hrs.unique hl ▸ hmem, by simpa [CharRange.has] using hr⟩

/-- Its ranges are in order if those of the body are. -/
theorem inOrder_iff_ordered (hp : Plain body) :
    Regex.InOrder (rangesOf (items (core body))) ↔ Ordered body := by
  have hall : Ordered body ↔ Regex.InOrder (named body) := by
    have hl := (lists_named hp).1
    constructor
    · intro h
      exact h _ hl
    · intro h rs hrs
      exact hrs.unique hl ▸ h
  have hkept : named body
      = (body.takeWhile (· == '-')).map (fun c => ⟨c, c⟩)
        ++ rangesOf (items (core body)) := by
    unfold named
    obtain ⟨rest, rfl, hinner, -⟩ | ⟨hinner, -⟩ := hp.front
    · rw [hinner, (split_items (lists_items hp.tail).2).1]
    · rw [hinner, (split_items (lists_items hp).2).1]
  rw [hall, hkept]
  constructor
  · intro h r hmem
    obtain hmem | hmem := List.mem_append.1 hmem
    · obtain ⟨c, -, rfl⟩ := List.mem_map.1 hmem
      exact Char.le_refl c
    · exact h r hmem
  · intro h r hmem
    exact h r (List.mem_append_right _ hmem)

/-- A plain sign is read with its ranges in order if they are. -/
theorem Sign.inOrder_iff {sign : Sign} (hp : sign.Plain) :
    sign.InOrder ↔ sign.Ordered := by
  cases sign with
  | bracket negated body => exact inOrder_iff_ordered hp
  | _ => exact Iff.rfl

theorem inOrder_signs (hp : ∀ sign ∈ signs, sign.Plain) :
    (∀ sign ∈ signs, sign.InOrder) ↔ ∀ sign ∈ signs, sign.Ordered :=
  forall₂_congr fun sign hmem => Sign.inOrder_iff (hp sign hmem)

-- ============================================================== the matches

/-- A plain sign that is no run of stars takes the characters that its
piece takes. -/
theorem Sign.takes_iff {sign : Sign} (hp : sign.Plain)
    (hrun : sign.piece ≠ .run) {part : List Char} :
    sign.Takes part ↔ ∃ c, part = [c] ∧ sign.piece.takes c = true := by
  cases sign with
  | stars more => exact absurd rfl hrun
  | mark => simp [Sign.Takes, Sign.piece, Piece.takes]
  | itself c => simp [Sign.Takes, Sign.piece, Piece.takes]
  | bracket negated body =>
      have htakes : ∀ c, (Sign.bracket negated body).piece.takes c
          = (lists body c != negated) := has_classSet negated body
      have hlisted := lists_iff_listed hp
      cases negated <;> simp [Sign.Takes, htakes, ← hlisted]

/-- Two runs of stars take what one takes. -/
theorem splits_stars_stars {n m : Nat} :
    Splits (.stars n :: .stars m :: signs) path
      ↔ Splits (.stars n :: signs) path := by
  rw [splits_cons, splits_cons]
  constructor
  · intro h
    obtain ⟨first, rest, rfl, hfirst, hs⟩ := h
    obtain ⟨second, rest, rfl, hsecond, hs⟩ := splits_cons.1 hs
    refine ⟨first ++ second, rest, (List.append_assoc ..).symm, ?_, hs⟩
    exact fun h => (List.mem_append.1 h).elim hfirst hsecond
  · intro h
    obtain ⟨part, rest, rfl, hpart, hs⟩ := h
    refine ⟨part, rest, rfl, hpart, splits_cons.2 ?_⟩
    exact ⟨[], rest, rfl, List.not_mem_nil, hs⟩

theorem splits_cons_congr (sign : Sign) {others : List Sign}
    (h : ∀ rest, Splits others rest ↔ Splits signs rest) (path : List Char) :
    Splits (sign :: others) path ↔ Splits (sign :: signs) path := by
  rw [splits_cons, splits_cons]
  simp only [h]

/-- Signs split what they split with their runs of stars joined; behind a
star, it and the signs are taken together. -/
theorem splits_joined (signs : List Sign) :
    (∀ path, Splits (joined false signs) path ↔ Splits signs path)
      ∧ ∀ n path, Splits (.stars n :: joined true signs) path
          ↔ Splits (.stars n :: signs) path := by
  induction signs with
  | nil => exact ⟨fun _ => Iff.rfl, fun _ _ => Iff.rfl⟩
  | cons sign signs ih =>
      obtain ⟨hfree, hstar⟩ := ih
      by_cases hrun : sign.isRun = true
      · cases sign with
        | stars more =>
            refine ⟨fun path => hstar more path, fun n path => ?_⟩
            exact (hstar n path).trans splits_stars_stars.symm
        | _ => cases hrun
      · have hjoined : ∀ starred,
            joined starred (sign :: signs) = sign :: joined false signs := by
          intro starred
          rw [Bool.not_eq_true] at hrun
          simp [joined, hrun]
        have hthis := splits_cons_congr sign hfree
        rw [hjoined, hjoined]
        exact ⟨hthis, fun n => splits_cons_congr (.stars n) hthis⟩

/-- The pieces of plain signs fit a path exactly if it is split along the
signs. -/
theorem fits_pieces (hp : ∀ sign ∈ signs, sign.Plain) :
    Fits (signs.map Sign.piece) path ↔ Splits signs path := by
  induction signs generalizing path with
  | nil => exact fits_nil.trans splits_nil.symm
  | cons sign signs ih =>
      have hrest : ∀ {rest}, Fits (signs.map Sign.piece) rest
          ↔ Splits signs rest := ih fun s hs => hp s (List.mem_cons_of_mem _ hs)
      rw [List.map_cons, splits_cons]
      by_cases hrun : sign.piece = .run
      · cases sign with
        | stars more =>
            show Fits (.run :: _) path ↔ _
            rw [fits_run]
            simp only [hrest]
            rfl
        | _ => cases hrun
      · rw [fits_single hrun]
        simp only [Sign.takes_iff (hp sign List.mem_cons_self) hrun, hrest]
        constructor
        · intro h
          obtain ⟨c, rest, rfl, hc, hs⟩ := h
          exact ⟨[c], rest, rfl, ⟨c, rfl, hc⟩, hs⟩
        · intro h
          obtain ⟨part, rest, rfl, ⟨c, rfl, hc⟩, hs⟩ := h
          exact ⟨c, rest, rfl, hc, hs⟩

theorem fits_piecesOf (hp : ∀ sign ∈ signs, sign.Plain) :
    Fits (piecesOf signs) path ↔ Splits signs path := by
  have hjoined : ∀ sign ∈ joined false signs, sign.Plain := fun sign hmem =>
    hp sign ((joined_sublist false signs).subset hmem)
  exact (fits_pieces hjoined).trans ((splits_joined signs).1 path)

-- ============================================================ the patterns

/-- Where no class of a text has two hyphens in a row, the text is a
pattern exactly if it is not empty, signs spell it, and the ranges of its
classes are in order; and the pattern matches exactly the paths that are
split along its signs. -/
theorem read_iff_spelled_and_matches_iff_splits {pattern : String}
    (hp : ∀ signs, Spells signs pattern.toList →
      ∀ sign ∈ signs, sign.Plain) :
    ((∃ g, Glob.read pattern = .ok g)
        ↔ pattern ≠ "" ∧ ∃ signs, Spells signs pattern.toList
            ∧ ∀ sign ∈ signs, sign.Ordered)
      ∧ ∀ g, Glob.read pattern = .ok g → ∀ (path : String) (signs : List Sign),
          Spells signs pattern.toList →
          (g.matches path = true ↔ Splits signs path.toList) := by
  refine ⟨⟨fun h => ?_, fun h => ?_⟩, fun g hread path signs hs => ?_⟩
  · obtain ⟨g, hread⟩ := h
    obtain ⟨hne, signs, hs, hord, -⟩ := read_eq_ok.1 hread
    exact ⟨hne, signs, hs, (inOrder_signs (hp signs hs)).1 hord⟩
  · obtain ⟨hne, signs, hs, hord⟩ := h
    have hord := (inOrder_signs (hp signs hs)).2 hord
    exact ⟨_, read_eq_ok.2 ⟨hne, signs, hs, hord, rfl⟩⟩
  · obtain ⟨-, rfl⟩ := read_of_spells hread hs
    rw [matches_whole, fits_piecesOf (hp signs hs)]

/-- A pattern with signs of every kind. -/
def reportPattern : String := "in/**[!a-c^-]?.cs[v]"

theorem toList_reportPattern : reportPattern.toList
    = ['i', 'n', '/', '*', '*', '[', '!', 'a', '-', 'c', '^', '-', ']', '?',
        '.', 'c', 's', '[', 'v', ']'] := by
  decide

/-- The pieces of the pattern. -/
def reportPieces : List Piece :=
  [.char 'i', .char 'n', .char '/', .run,
    .oneOf (classSet true ['a', '-', 'c', '^', '-']), .one, .char '.',
    .char 'c', .char 's', .oneOf (classSet false ['v'])]

/-- The pattern is spelled in order; it splits a path along its signs, and
another path that only differs in a character its class lists it does
not. -/
theorem reportPattern_splits : ∃ signs,
    (∀ signs, Spells signs reportPattern.toList →
        ∀ sign ∈ signs, sign.Plain)
      ∧ Spells signs reportPattern.toList
      ∧ (∀ sign ∈ signs, sign.Ordered)
      ∧ Splits signs "in/07/q1.csv".toList
      ∧ ¬ Splits signs "in/07/b1.csv".toList := by
  have hplain : Plain reportPattern.toList := by
    rw [toList_reportPattern]
    decide
  have hexact := read_iff_spelled_and_matches_iff_splits
    fun signs hs => hs.plain hplain
  have hread : Glob.read reportPattern
      = .ok ⟨reportPattern, whole reportPieces⟩ := by
    unfold Glob.read
    rw [toList_reportPattern]
    rfl
  obtain ⟨-, signs, hs, hord⟩ := hexact.1.1 ⟨_, hread⟩
  refine ⟨signs, fun signs hs => hs.plain hplain, hs, hord, ?_, ?_⟩
  · exact (hexact.2 _ hread _ signs hs).1 (by decide)
  · rw [← hexact.2 _ hread _ signs hs]
    decide

end BatchAdmin.Glob
