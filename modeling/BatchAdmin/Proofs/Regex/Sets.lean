/-
Which characters a quoted class has.

The items of a class name characters, and a pair of hyphens among them
takes out what is named behind it. So a class is two lists of ranges, what
it names in front of its first pair (`named`) and what it names behind it
(`removed`): it has the characters that are in the one and not in the other
(`has_classSet`). More pairs make no difference, as each of them takes
something out of what is left.
-/
import BatchAdmin.Proofs.Regex.Classes

namespace BatchAdmin.Regex

/-- What a class names in front of its first pair of hyphens. -/
def named (body : List Char) : List CharRange :=
  (body.takeWhile (· == '-')).map (fun c => ⟨c, c⟩)
    ++ rangesOf ((items (core body)).takeWhile (· != .minus))

/-- What a class names behind its first pair of hyphens. -/
def removed (body : List Char) : List CharRange :=
  rangesOf ((items (core body)).dropWhile (· != .minus))

/-- The class names the character and does not take it out again. -/
def lists (body : List Char) (c : Char) : Bool :=
  (named body).any (·.has c) && !(removed body).any (·.has c)

theorem rangesOf_range (r : CharRange) (is : List Item) :
    rangesOf (.range r :: is) = r :: rangesOf is := rfl

theorem rangesOf_minus (is : List Item) :
    rangesOf (.minus :: is) = rangesOf is := rfl

theorem Bracket.negated_foldl (is : List Item) (b : Bracket) :
    (is.foldl Bracket.take b).negated = b.negated := by
  induction is generalizing b with
  | nil => rfl
  | cons i is ih =>
      rw [List.foldl_cons, ih]
      cases i <;> rfl

/-- Behind a pair of hyphens everything that is named is taken out. -/
theorem Bracket.has_foldl_without {s : CharSet} (is : List Item) (b : Bracket)
    (hleft : b.left = some (.without, s)) (c : Char) :
    (is.foldl Bracket.take b).set.has c
      = (s.has c && !(b.named.has c || (rangesOf is).any (·.has c))) := by
  induction is generalizing b s with
  | nil =>
      rw [List.foldl_nil]
      unfold Bracket.set
      rw [hleft]
      simp [CharSet.has, SetOp.holds, rangesOf]
  | cons i is ih =>
      rw [List.foldl_cons]
      cases i with
      | range r =>
          rw [ih (b.take (.range r)) hleft, rangesOf_range, List.any_cons,
            ← Bool.or_assoc]
          rfl
      | minus =>
          have hset : b.set = .combined .without s b.named := by
            unfold Bracket.set
            rw [hleft]
          rw [ih (b.take .minus) rfl, hset, rangesOf_minus]
          show (s.has c && !b.named.has c && !(false || _)) = _
          rw [Bool.false_or, Bool.not_or, Bool.and_assoc]

/-- In front of one it is added. -/
theorem Bracket.has_foldl (is : List Item) (b : Bracket) (hleft : b.left = none)
    (c : Char) :
    (is.foldl Bracket.take b).set.has c
      = ((b.named.has c || (rangesOf (is.takeWhile (· != .minus))).any (·.has c))
        && !(rangesOf (is.dropWhile (· != .minus))).any (·.has c)) := by
  induction is generalizing b with
  | nil =>
      rw [List.foldl_nil]
      unfold Bracket.set
      rw [hleft]
      simp [rangesOf]
  | cons i is ih =>
      rw [List.foldl_cons]
      cases i with
      | range r =>
          rw [ih (b.take (.range r)) hleft,
            List.takeWhile_cons_of_pos rfl, List.dropWhile_cons_of_pos rfl,
            rangesOf_range,
            List.any_cons, ← Bool.or_assoc]
          rfl
      | minus =>
          have hset : b.set = b.named := by
            unfold Bracket.set
            rw [hleft]
          rw [Bracket.has_foldl_without is (b.take .minus) rfl, hset,
            List.takeWhile_cons_of_neg (by decide),
            List.dropWhile_cons_of_neg (by decide), rangesOf_minus]
          simp [rangesOf, Bracket.take, Bracket.operate, CharSet.has]

/-- The hyphens at the front are named. -/
theorem Bracket.hyphens_spec (body : List Char) (b : Bracket) (c : Char) :
    (b.hyphens body).negated = b.negated ∧ (b.hyphens body).left = b.left
      ∧ (b.hyphens body).named.has c
        = (b.named.has c || ((body.takeWhile (· == '-')).map
            fun c => (⟨c, c⟩ : CharRange)).any (·.has c)) := by
  unfold Bracket.hyphens
  induction body.takeWhile (· == '-') generalizing b with
  | nil => exact ⟨rfl, rfl, (Bool.or_false _).symm⟩
  | cons d hyphens ih =>
      obtain ⟨hnegated, hleft, hnamed⟩ := ih (b.add (.single d))
      refine ⟨hnegated, hleft, ?_⟩
      rw [List.foldl_cons, hnamed, List.map_cons, List.any_cons, ← Bool.or_assoc]
      rfl

/-- A class has the characters that it lists, and a negated one all
others. -/
theorem has_classSet (negated : Bool) (body : List Char) (c : Char) :
    (classSet negated body).has c = (lists body c != negated) := by
  obtain ⟨hnegated, hleft, hnamed⟩ :=
    Bracket.hyphens_spec body { Bracket.empty with negated } c
  have hset := Bracket.has_foldl (items (core body)) _ hleft c
  rw [hnamed] at hset
  have hlists : ((items (core body)).foldl Bracket.take
      (Bracket.hyphens { Bracket.empty with negated } body)).set.has c
        = lists body c := by
    rw [hset]
    unfold lists named removed
    rw [List.any_append]
    rfl
  unfold classSet Bracket.close
  rw [Bracket.negated_foldl, hnegated, ← hlists]
  cases negated with
  | false => exact (Bool.bne_false _).symm
  | true => exact (Bool.bne_true _).symm

end BatchAdmin.Regex
