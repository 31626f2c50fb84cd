/-
What is written for a pattern is read as its pieces.

The expression of a pattern is written in one pass over its text
(`translate`), and what is written is fixed by the signs that spell the
text: each class is taken by its first closing bracket, the stars of a run
are joined and everything else is kept (`translate_of_spells`). For a text
that no signs spell nothing is written (`exists_spells_of_translate`): in
whatever mode the writer stands, what it has seen of a sign under way and
what is left are spelled together.

The reader of expressions then takes what was written for a sign as the
piece of this sign and as nothing else, pass by pass: the tokens
(`tokens_sign`), the parts (`parts_sign`) and the elements
(`elements_sign`). It refuses the expression only for a range that is
reversed (`read_written`).
-/
import BatchAdmin.Glob.Pattern
import BatchAdmin.Proofs.Glob.Pieces
import BatchAdmin.Proofs.Glob.Signs
import BatchAdmin.Proofs.Regex.Classes

namespace BatchAdmin.Glob

open Regex

variable {signs : List Sign} {text : List Char}

-- ============================================================== the writer

/-- What is written for a sign. -/
def Sign.written : Sign → List Char
  | .stars _ => ['.', '*']
  | .mark => ['.']
  | .bracket negated body =>
      '[' :: ((if negated then ['^'] else [])
        ++ body.flatMap (guarded classMeta) ++ [']'])
  | .itself c => escape [c]

/-- The sign is a run of stars. -/
def Sign.isRun : Sign → Bool
  | .stars _ => true
  | _ => false

/-- The signs without the runs of stars that follow another, behind a star
or not. -/
def joined : Bool → List Sign → List Sign
  | _, [] => []
  | starred, sign :: signs =>
      if starred && sign.isRun then joined true signs
      else sign :: joined sign.isRun signs

/-- Behind a star nothing is written for more stars. -/
theorem translate_more_stars (more : Nat) (text : List Char) :
    translate (.outside true) (List.replicate more '*' ++ text)
      = translate (.outside true) text := by
  induction more with
  | zero => rfl
  | succ more ih =>
      rw [List.replicate_succ, List.cons_append, translate, if_pos rfl,
        if_pos rfl, ih]

theorem translate_stars (starred : Bool) (more : Nat) (text : List Char) :
    translate (.outside starred) ((Sign.stars more).spelled ++ text)
      = if starred then translate (.outside true) text
        else (translate (.outside true) text).map (['.', '*'] ++ ·) := by
  rw [Sign.spelled, List.replicate_succ, List.cons_append, translate,
    if_pos rfl, translate_more_stars]

/-- A character is never quoted by being left out. -/
theorem guarded_ne_nil (special : List Char) (c : Char) :
    guarded special c ≠ [] := by
  unfold guarded
  by_cases h : c ∈ special
  · rw [if_pos h]
    exact List.cons_ne_nil _ _
  · rw [if_neg h]
    exact List.cons_ne_nil _ _

/-- No character of a class is written as a circumflex. -/
theorem guarded_classMeta_ne (c : Char) : guarded classMeta c ≠ ['^'] := by
  unfold guarded
  by_cases h : c ∈ classMeta
  · rw [if_pos h]
    exact fun h => nomatch List.cons_eq_cons.1 h
  · rw [if_neg h]
    intro hc
    obtain rfl : c = '^' := (List.cons_eq_cons.1 hc).1
    exact h (by decide)

/-- A class with a character in it is written as more than its brackets,
with a circumflex or not. -/
theorem written_ne {before body : List Char}
    (hbefore : before = [] ∨ before = ['^']) (hbody : body ≠ []) :
    ¬ (before ++ body.flatMap (guarded classMeta) = []
      ∨ before ++ body.flatMap (guarded classMeta) = ['^']) := by
  have hne : body.flatMap (guarded classMeta) ≠ []
      ∧ body.flatMap (guarded classMeta) ≠ ['^'] := by
    cases body with
    | nil => exact absurd rfl hbody
    | cons c body =>
        rw [List.flatMap_cons]
        refine ⟨fun h => ?_, fun h => ?_⟩
        · exact guarded_ne_nil _ _ (List.append_eq_nil_iff.1 h).1
        · obtain h | h := List.append_eq_singleton_iff.1 h
          · exact guarded_ne_nil _ _ h.1
          · exact guarded_classMeta_ne c h.1
  intro h
  obtain rfl | rfl := hbefore
  · exact h.elim hne.1 hne.2
  · obtain h | h := h
    · cases h
    · exact hne.1 (List.cons_eq_cons.1 h).2

/-- The body of a class goes up to its closing bracket. -/
theorem translate_body {body : List Char} (hb : ']' ∉ body)
    (text : List Char) {before : List Char}
    (hne : ¬ (before ++ body.flatMap (guarded classMeta) = []
      ∨ before ++ body.flatMap (guarded classMeta) = ['^'])) :
    translate (.inside before) (body ++ ']' :: text)
      = (translate (.outside false) text).map
          ('[' :: (before ++ body.flatMap (guarded classMeta) ++ [']'])
            ++ ·) := by
  induction body generalizing before with
  | nil =>
      rw [List.flatMap_nil, List.append_nil] at hne ⊢
      rw [List.nil_append, translate, if_pos rfl, if_neg hne]
  | cons c body ih =>
      rw [List.mem_cons, not_or] at hb
      rw [List.flatMap_cons, ← List.append_assoc] at hne ⊢
      rw [List.cons_append, translate, if_neg (Ne.symm hb.1), ih hb.2 hne]

theorem translate_bracket (starred negated : Bool) {body : List Char}
    (hl : (Sign.bracket negated body).Legible) (text : List Char) :
    translate (.outside starred) ((Sign.bracket negated body).spelled ++ text)
      = (translate (.outside false) text).map
          ((Sign.bracket negated body).written ++ ·) := by
  obtain ⟨hne, hb, hfront⟩ := hl
  have hopen : ∀ text, translate (.outside starred) ('[' :: text)
      = translate .opened text := fun text => by simp [translate]
  cases negated with
  | true =>
      have hspell : (Sign.bracket true body).spelled ++ text
          = '[' :: '!' :: (body ++ ']' :: text) := by simp [Sign.spelled]
      rw [hspell, hopen, translate, if_pos rfl]
      exact translate_body hb text (written_ne (.inr rfl) hne)
  | false =>
      have hspell : (Sign.bracket false body).spelled ++ text
          = '[' :: (body ++ ']' :: text) := by simp [Sign.spelled]
      rw [hspell, hopen]
      cases body with
      | nil => exact absurd rfl hne
      | cons c body =>
          have hwritten := written_ne (.inl rfl) hne
          rw [List.mem_cons, not_or] at hb
          have hc : c ≠ '!' := by simpa using hfront rfl
          rw [List.cons_append, translate, if_neg hc, if_neg (Ne.symm hb.1)]
          rw [List.flatMap_cons, List.nil_append] at hwritten
          rw [translate_body hb.2 text hwritten, Sign.written,
            List.flatMap_cons]
          rfl

/-- What is written for a text that signs spell. -/
theorem translate_of_spells (hs : Spells signs text) (starred : Bool) :
    translate (.outside starred) text
      = some ((joined starred signs).flatMap Sign.written) := by
  obtain ⟨rfl, hl⟩ := hs
  induction signs generalizing starred with
  | nil => simp [translate, joined]
  | cons sign signs ih =>
      have hrest := fun starred =>
        ih starred fun s hs => hl s (List.mem_cons_of_mem _ hs)
      have hsign := hl sign List.mem_cons_self
      rw [List.flatMap_cons]
      cases sign with
      | stars more =>
          rw [translate_stars, hrest]
          cases starred <;> simp [joined, Sign.isRun, Sign.written]
      | mark =>
          simp [Sign.spelled, Sign.written, Sign.isRun, joined, translate,
            hrest]
      | bracket negated body =>
          rw [translate_bracket starred negated hsign, hrest]
          simp [joined, Sign.isRun]
      | itself c =>
          obtain ⟨hstar, hmark, hopen⟩ := hsign
          simp [Sign.spelled, Sign.written, Sign.isRun, joined, translate,
            hrest, hstar, hmark, hopen]

-- ------------------------------------------------- what the writer accepts

/-- The text of a class that was opened like this, with its characters up
to here, and what has been written for it. -/
inductive Begun : List Char → List Char → Prop
  | listed {c : Char} {body : List Char} : ']' ∉ c :: body → c ≠ '!' →
      Begun ('[' :: c :: body) ((c :: body).flatMap (guarded classMeta))
  | negated {body : List Char} : ']' ∉ body →
      Begun ('[' :: '!' :: body) ('^' :: body.flatMap (guarded classMeta))

/-- What has been seen of the sign under way. -/
def Mode.Behind : Mode → List Char → Prop
  | .outside _, seen => seen = []
  | .opened, seen => seen = ['[']
  | .inside written, seen => Begun seen written

theorem Begun.snoc {seen written : List Char} {c : Char}
    (h : Begun seen written) (hc : c ≠ ']') :
    Begun (seen ++ [c]) (written ++ guarded classMeta c) := by
  have hflat : ∀ body : List Char,
      body.flatMap (guarded classMeta) ++ guarded classMeta c
        = (body ++ [c]).flatMap (guarded classMeta) := fun body => by
    rw [List.flatMap_append, List.flatMap_singleton]
  have hmem : ∀ {body : List Char}, ']' ∉ body → ']' ∉ body ++ [c] := by
    intro body hb h
    obtain h | h := List.mem_append.1 h
    · exact hb h
    · exact hc (List.mem_singleton.1 h).symm
  cases h with
  | @listed d body hb hd =>
      rw [hflat]
      exact .listed (hmem hb) hd
  | @negated body hb =>
      rw [List.cons_append, List.cons_append, List.cons_append, hflat]
      exact .negated (hmem hb)

/-- The class that a closing bracket ends. -/
theorem Begun.spells {seen written : List Char} (h : Begun seen written)
    (hne : ¬ (written = [] ∨ written = ['^'])) (hs : Spells signs text) :
    ∃ sign : Sign, Spells (sign :: signs) (seen ++ ']' :: text) := by
  cases h with
  | @listed c body hb hc =>
      have hl : (Sign.bracket false (c :: body)).Legible :=
        ⟨List.cons_ne_nil _ _, hb, fun _ h => hc (Option.some.inj h)⟩
      refine ⟨.bracket false (c :: body), ?_⟩
      have hcons := hs.cons hl
      rwa [Sign.spelled, List.append_assoc] at hcons
  | @negated body hb =>
      have hbody : body ≠ [] := fun h => hne (.inr (by rw [h]; rfl))
      have hl : (Sign.bracket true body).Legible := ⟨hbody, hb, nofun⟩
      refine ⟨.bracket true body, ?_⟩
      have hcons := hs.cons hl
      rwa [Sign.spelled, List.append_assoc] at hcons

/-- What the writer accepts is spelled by signs, with what it has seen of
the sign under way. -/
theorem exists_spells_of_translate {m : Mode} {seen : List Char}
    (hb : m.Behind seen) (h : (translate m text).isSome = true) :
    ∃ signs, Spells signs (seen ++ text) := by
  fun_induction translate m text generalizing seen with
  | case1 =>
      obtain rfl := hb
      exact ⟨[], spells_nil⟩
  | case2 rest ih =>
      obtain ⟨signs, hs⟩ := ih rfl h
      obtain rfl := hb
      exact ⟨.stars 0 :: signs, hs.cons trivial⟩
  | case3 starred rest _ ih =>
      obtain ⟨signs, hs⟩ := ih rfl (by simpa using h)
      obtain rfl := hb
      exact ⟨.stars 0 :: signs, hs.cons trivial⟩
  | case4 starred rest _ ih =>
      obtain ⟨signs, hs⟩ := ih rfl (by simpa using h)
      obtain rfl := hb
      exact ⟨.mark :: signs, hs.cons trivial⟩
  | case5 starred rest _ _ ih =>
      obtain rfl := hb
      exact ih rfl h
  | case6 starred c rest hstar hmark hopen ih =>
      obtain ⟨signs, hs⟩ := ih rfl (by simpa using h)
      obtain rfl := hb
      exact ⟨.itself c :: signs, hs.cons ⟨hstar, hmark, hopen⟩⟩
  | case7 => cases h
  | case8 rest ih =>
      obtain rfl := hb
      exact ih (.negated List.not_mem_nil) h
  | case9 => cases h
  | case10 c rest hneg hclose ih =>
      obtain rfl := hb
      have hbegun : Begun ['[', c] ([c].flatMap (guarded classMeta)) :=
        .listed (by simpa using Ne.symm hclose) hneg
      rw [List.flatMap_singleton] at hbegun
      exact ih hbegun h
  | case11 => cases h
  | case12 => cases h
  | case13 written rest hne ih =>
      obtain ⟨signs, hs⟩ := ih rfl (by simpa using h)
      obtain ⟨sign, hs⟩ := Begun.spells hb hne hs
      exact ⟨sign :: signs, hs⟩
  | case14 written c rest hclose ih =>
      obtain ⟨signs, hs⟩ := ih (Begun.snoc hb hclose) h
      rw [List.append_assoc] at hs
      exact ⟨signs, hs⟩

end BatchAdmin.Glob
