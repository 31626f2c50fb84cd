/-
What was written for a pattern is read as its pieces.

The reader of expressions takes what was written for a sign as the piece of
this sign and as nothing else, pass by pass: the tokens (`tokens_sign`), the
parts (`parts_sign`) and the elements (`elements_sign`). That the quoted
characters are enough for a class to be read so is what `neutral_classMeta`
says of the list of them.

So of everything that can be wrong with an expression only one thing can be
wrong with the expression of a pattern: a range is reversed
(`read_written`). A text is compiled if it is not empty, signs spell it and
the ranges of its classes are in order, and the faults are told apart by
these conditions in turn (`compile_of_spells`, `compile_of_not_spells`).
-/
import BatchAdmin.Proofs.Glob.Writing

namespace BatchAdmin.Glob

open Regex

variable {signs : List Sign} {sign : Sign} {text : List Char}

-- =============================================================== the signs

/-- The piece that a sign is read as. -/
def Sign.piece : Sign → Piece
  | .stars _ => .run
  | .mark => .one
  | .bracket negated body => .oneOf (classSet negated body)
  | .itself c => .char c

/-- The tokens that are read for a sign. -/
def Sign.tokens : Sign → List Token
  | .stars _ => [.plain '.', .plain '*']
  | .mark => [.plain '.']
  | .bracket negated body =>
      .plain '[' :: ((if negated then [.plain '^'] else [])
        ++ body.map (.of classMeta) ++ [.plain ']'])
  | .itself c => [.of metaCharacters c]

/-- The parts that are read for a sign. -/
def Sign.parts : Sign → List Part
  | .stars _ => [.atom .any, .star]
  | .mark => [.atom .any]
  | .bracket negated body => [.atom (.oneOf (classSet negated body))]
  | .itself c => [.atom (.char c)]

/-- A class in the sign is read with its ranges in order. -/
def Sign.InOrder : Sign → Prop
  | .bracket _ body => Regex.InOrder (rangesOf (items (core body)))
  | _ => True

instance : (sign : Sign) → Decidable sign.InOrder
  | .bracket _ body =>
      inferInstanceAs (Decidable (Regex.InOrder (rangesOf (items (core body)))))
  | .stars _ => inferInstanceAs (Decidable True)
  | .mark => inferInstanceAs (Decidable True)
  | .itself _ => inferInstanceAs (Decidable True)

-- ============================================================== the reader

/-- With these characters quoted a class has no operators but `--`. -/
theorem neutral_classMeta : Neutral classMeta where
  backslash := by decide
  bracket := by decide
  caret := by decide
  ampersand := by decide
  tilde := by decide
  hyphen := by decide
  close := by decide

theorem tokens_sign (sign : Sign) (text : List Char) :
    Regex.tokens (sign.written ++ text)
      = (Regex.tokens text).map (sign.tokens ++ ·) := by
  have hclass : classMeta ⊆ metaCharacters := by decide
  have hback : '\\' ∈ classMeta := by decide
  cases sign with
  | stars more =>
      show Regex.tokens ('.' :: '*' :: text) = _
      rw [tokens_plain (by decide), tokens_plain (by decide), Option.map_map]
      rfl
  | mark => exact tokens_plain (by decide) text
  | bracket negated body =>
      have hbody : Regex.tokens
          (body.flatMap (guarded classMeta) ++ ([']'] ++ text))
            = (Regex.tokens text).map
              (body.map (.of classMeta) ++ .plain ']' :: ·) := by
        rw [tokens_flatMap_guarded hclass hback, List.singleton_append,
          tokens_plain (by decide), Option.map_map]
        rfl
      cases negated with
      | true =>
          show Regex.tokens ('[' :: ('^' :: body.flatMap _ ++ [']'] ++ text)) = _
          rw [tokens_plain (by decide), List.append_assoc, List.cons_append,
            tokens_plain (by decide), hbody, Option.map_map, Option.map_map]
          simp [Sign.tokens, Function.comp_def]
      | false =>
          show Regex.tokens ('[' :: (body.flatMap _ ++ [']'] ++ text)) = _
          rw [tokens_plain (by decide), List.append_assoc, hbody,
            Option.map_map]
          simp [Sign.tokens, Function.comp_def]
  | itself c =>
      show Regex.tokens ((guarded metaCharacters c ++ []) ++ text) = _
      rw [List.append_nil]
      exact tokens_guarded (List.Subset.refl _) (by decide) c text

theorem tokens_signs (signs : List Sign) (text : List Char) :
    Regex.tokens (signs.flatMap Sign.written ++ text)
      = (Regex.tokens text).map (signs.flatMap Sign.tokens ++ ·) := by
  induction signs with
  | nil => exact Option.map_id'.symm ▸ rfl
  | cons sign signs ih =>
      rw [List.flatMap_cons, List.append_assoc, tokens_sign, ih,
        Option.map_map]
      simp [Function.comp_def]

theorem parts_plain {t : Token} {p : Part} (ht : t ≠ .plain '[')
    (hp : partOf t = some p) (rest : List Token) :
    Regex.parts .outside (t :: rest)
      = (Regex.parts .outside rest).map (p :: ·) := by
  rw [Regex.parts, if_neg ht, hp]

/-- A quoted character is one for itself. -/
theorem partOf_of (c : Char) :
    partOf (.of metaCharacters c) = some (.atom (.char c)) := by
  unfold Token.of
  by_cases h : c ∈ metaCharacters
  · rw [if_pos h]
    rfl
  · rw [if_neg h]
    simp only [metaCharacters, List.mem_cons, List.not_mem_nil, not_or] at h
    simp [partOf, h]

theorem parts_sign (hl : sign.Legible) (rest : List Token) :
    Regex.parts .outside (sign.tokens ++ rest)
      = if sign.InOrder then
          (Regex.parts .outside rest).map (sign.parts ++ ·)
        else .error .reversedRange := by
  cases sign with
  | stars more =>
      rw [if_pos (show (Sign.stars more).InOrder from trivial)]
      show Regex.parts .outside (.plain '.' :: .plain '*' :: rest) = _
      rw [parts_plain (by decide) rfl, parts_plain (by decide) rfl]
      cases Regex.parts .outside rest <;> rfl
  | mark =>
      rw [if_pos (show Sign.mark.InOrder from trivial)]
      exact parts_plain (by decide) rfl rest
  | bracket negated body =>
      obtain ⟨hne, hclose, -⟩ := hl
      cases negated with
      | true =>
          have htokens : (Sign.bracket true body).tokens ++ rest
              = .plain '[' :: .plain '^'
                :: (body.map (.of classMeta) ++ .plain ']' :: rest) := by
            simp [Sign.tokens]
          rw [htokens]
          exact neutral_classMeta.parts_class_negated hclose hne rest
      | false =>
          have htokens : (Sign.bracket false body).tokens ++ rest
              = .plain '['
                :: (body.map (.of classMeta) ++ .plain ']' :: rest) := by
            simp [Sign.tokens]
          rw [htokens]
          exact neutral_classMeta.parts_class hclose hne rest
  | itself c =>
      rw [if_pos (show (Sign.itself c).InOrder from trivial)]
      refine parts_plain (fun h => ?_) (partOf_of c) rest
      exact (Token.of_eq_plain.1 h).2 (by decide)

theorem parts_signs (hl : ∀ sign ∈ signs, sign.Legible) :
    Regex.parts .outside (signs.flatMap Sign.tokens ++ [.plain '$'])
      = if ∀ sign ∈ signs, sign.InOrder then
          .ok (signs.flatMap Sign.parts ++ [.stop])
        else .error .reversedRange := by
  induction signs with
  | nil =>
      rw [if_pos nofun]
      rfl
  | cons sign signs ih =>
      rw [List.flatMap_cons, List.append_assoc,
        parts_sign (hl sign List.mem_cons_self),
        ih fun s hs => hl s (List.mem_cons_of_mem _ hs)]
      by_cases hsign : sign.InOrder
      · by_cases hrest : ∀ s ∈ signs, s.InOrder
        · rw [if_pos hsign, if_pos hrest,
            if_pos (List.forall_mem_cons.2 ⟨hsign, hrest⟩)]
          simp [Except.map]
        · rw [if_pos hsign, if_neg hrest,
            if_neg fun h => hrest (List.forall_mem_cons.1 h).2]
          rfl
      · rw [if_neg hsign, if_neg fun h => hsign (h sign List.mem_cons_self)]

/-- The parts of a sign are one element, if no star follows. -/
theorem elements_sign (sign : Sign) {ps : List Part}
    (hps : ps.head? ≠ some .star) :
    elements (sign.parts ++ ps)
      = (elements ps).map (sign.piece.element :: ·) := by
  have hatom : ∀ a, elements (.atom a :: ps)
      = (elements ps).map (.one a :: ·) := by
    intro a
    cases ps with
    | nil => rfl
    | cons p ps =>
        cases p with
        | star => exact absurd rfl hps
        | _ => rfl
  cases sign with
  | stars more => rfl
  | mark => exact hatom _
  | bracket negated body => exact hatom _
  | itself c => exact hatom _

theorem elements_signs (signs : List Sign) :
    elements (signs.flatMap Sign.parts ++ [.stop])
      = some ((signs.map Sign.piece).map Piece.element ++ [.stop]) := by
  have hhead : ∀ signs : List Sign,
      (signs.flatMap Sign.parts ++ [Part.stop]).head? ≠ some .star := by
    intro signs
    cases signs with
    | nil => nofun
    | cons sign signs => cases sign <;> nofun
  induction signs with
  | nil => rfl
  | cons sign signs ih =>
      rw [List.flatMap_cons, List.append_assoc, elements_sign sign (hhead _), ih]
      rfl

/-- What was written for signs is read as their pieces, between anchors; it
is refused only for a range that is reversed. -/
theorem read_written (hl : ∀ sign ∈ signs, sign.Legible) :
    Regex.read (anchored (signs.flatMap Sign.written))
      = if ∀ sign ∈ signs, sign.InOrder then
          .ok (whole (signs.map Sign.piece))
        else .error .reversedRange := by
  have htokens : Regex.tokens (anchored (signs.flatMap Sign.written))
      = some (.plain '^' :: (signs.flatMap Sign.tokens ++ [.plain '$'])) := by
    unfold anchored
    rw [tokens_plain (by decide), tokens_signs]
    rfl
  have hparts : Regex.parts .outside
      (.plain '^' :: (signs.flatMap Sign.tokens ++ [.plain '$']))
        = if ∀ sign ∈ signs, sign.InOrder then
            .ok (.start :: (signs.flatMap Sign.parts ++ [.stop]))
          else .error .reversedRange := by
    rw [parts_plain (by decide) rfl, parts_signs hl]
    by_cases h : ∀ sign ∈ signs, sign.InOrder
    · rw [if_pos h, if_pos h]
      rfl
    · rw [if_neg h, if_neg h]
      rfl
  unfold Regex.read
  simp only [htokens, hparts]
  by_cases h : ∀ sign ∈ signs, sign.InOrder
  · rw [if_pos h, if_pos h]
    simp only [elements, elements_signs]
    rfl
  · rw [if_neg h, if_neg h]

-- ============================================================ the patterns

/-- The pieces of a pattern that signs spell. -/
def piecesOf (signs : List Sign) : List Piece :=
  (joined false signs).map Sign.piece

/-- To join runs is to leave signs out. -/
theorem joined_sublist (starred : Bool) (signs : List Sign) :
    (joined starred signs).Sublist signs := by
  induction signs generalizing starred with
  | nil => exact List.Sublist.refl _
  | cons sign signs ih =>
      unfold joined
      by_cases h : (starred && sign.isRun) = true
      · rw [if_pos h]
        exact (ih true).cons sign
      · rw [if_neg h]
        exact (ih sign.isRun).cons_cons sign

/-- Only runs of stars are joined, which have no ranges. -/
theorem inOrder_joined (starred : Bool) (signs : List Sign) :
    (∀ sign ∈ joined starred signs, sign.InOrder)
      ↔ ∀ sign ∈ signs, sign.InOrder := by
  induction signs generalizing starred with
  | nil => exact Iff.rfl
  | cons sign signs ih =>
      unfold joined
      rw [List.forall_mem_cons]
      by_cases h : (starred && sign.isRun) = true
      · rw [if_pos h, ih]
        have hrun := ((Bool.and_eq_true ..).mp h).2
        cases sign with
        | stars more => exact (and_iff_right trivial).symm
        | _ => cases hrun
      · rw [if_neg h, List.forall_mem_cons, ih]

/-- What a text that signs spell is compiled to. -/
theorem compile_of_spells (hne : text ≠ []) (hs : Spells signs text) :
    compile text
      = if ∀ sign ∈ signs, sign.InOrder then .ok (whole (piecesOf signs))
        else .error (.refused .reversedRange) := by
  have hread := read_written fun sign hmem =>
    hs.2 sign ((joined_sublist false signs).subset hmem)
  unfold compile expression
  rw [if_neg (by simpa using hne), translate_of_spells hs]
  simp only [Option.map_some, hread, inOrder_joined]
  by_cases h : ∀ sign ∈ signs, sign.InOrder
  · rw [if_pos h, if_pos h]
    rfl
  · rw [if_neg h, if_neg h]

/-- In a text that no signs spell a class is open or empty. -/
theorem compile_of_not_spells (hne : text ≠ [])
    (hs : ¬ ∃ signs, Spells signs text) : compile text = .error .openClass := by
  have hnone : translate (.outside false) text = none := by
    rw [← Option.not_isSome_iff_eq_none]
    intro h
    exact hs (exists_spells_of_translate (m := .outside false) rfl h)
  unfold compile expression
  rw [if_neg (by simpa using hne), hnone]
  rfl

/-- Of a pattern that signs spell the classes are in order, and the
expression is made of the pieces of the signs. -/
theorem read_of_spells {pattern : String} {g : Glob}
    (hread : Glob.read pattern = .ok g) (hs : Spells signs pattern.toList) :
    (∀ sign ∈ signs, sign.InOrder)
      ∧ g = ⟨pattern, whole (piecesOf signs)⟩ := by
  unfold Glob.read at hread
  by_cases hne : pattern.toList = []
  · rw [hne] at hread
    cases hread
  · rw [compile_of_spells hne hs] at hread
    by_cases h : ∀ sign ∈ signs, sign.InOrder
    · rw [if_pos h] at hread
      exact ⟨h, (Except.ok.inj hread).symm⟩
    · rw [if_neg h] at hread
      cases hread

/-- A text is a pattern if it is not empty, signs spell it and the ranges of
its classes are in order; its expression is made of the pieces of the
signs. -/
theorem read_eq_ok {pattern : String} {g : Glob} :
    Glob.read pattern = .ok g
      ↔ pattern ≠ "" ∧ ∃ signs, Spells signs pattern.toList
          ∧ (∀ sign ∈ signs, sign.InOrder)
          ∧ g = ⟨pattern, whole (piecesOf signs)⟩ := by
  constructor
  · intro hread
    by_cases hempty : pattern = ""
    · rw [hempty] at hread
      cases hread
    have hne : pattern.toList ≠ [] := by simpa using hempty
    by_cases hs : ∃ signs, Spells signs pattern.toList
    · obtain ⟨signs, hs⟩ := hs
      exact ⟨hempty, signs, hs, read_of_spells hread hs⟩
    · unfold Glob.read at hread
      rw [compile_of_not_spells hne hs] at hread
      cases hread
  · intro h
    obtain ⟨hempty, signs, hs, hord, rfl⟩ := h
    have hne : pattern.toList ≠ [] := by simpa using hempty
    unfold Glob.read
    rw [compile_of_spells hne hs, if_pos hord]

/-- A pattern matches the paths that can be cut for its pieces. -/
theorem matches_whole (source path : String) (ps : List Piece) :
    Glob.matches ⟨source, whole ps⟩ path = true ↔ Fits ps path.toList :=
  isMatch_whole

end BatchAdmin.Glob
