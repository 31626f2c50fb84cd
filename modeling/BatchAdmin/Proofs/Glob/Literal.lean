/-
What a pattern matches that is the text of a path.

A text without operators is read as its characters, and it matches itself
and nothing else (`matches_of_literal`). With an operator in it a text may
match itself all the same, as a star takes a star; but then it matches
other texts too. Each sign that is no character for itself is spelled with
more characters than its piece holds on to (`firm_add_operates_le`), so
where a text is cut for its own pieces, a run or a question mark has been
given one of them, and any other may stand in its place (`Fits.vary`). Only
characters that are no slashes count here: with another one in their place
a path is a path still, with as many names in it.
-/
import BatchAdmin.Proofs.Glob.Reading

namespace BatchAdmin.Glob

open Regex

variable {signs : List Sign} {ps : List Piece} {path text : List Char}

-- ============================================================== the literals

/-- None of the characters is an operator. -/
def Literal (text : List Char) : Prop :=
  ∀ c ∈ text, c ≠ '*' ∧ c ≠ '?' ∧ c ≠ '['

instance (text : List Char) : Decidable (Literal text) :=
  List.decidableBAll _ text

/-- The characters of a literal text spell it. -/
theorem Literal.spells (h : Literal text) : Spells (text.map .itself) text := by
  constructor
  · rw [List.flatMap_map]
    exact List.flatMap_singleton' text
  · exact List.forall_mem_map.2 h

theorem piecesOf_itself (text : List Char) :
    piecesOf (text.map .itself) = text.map .char := by
  have hjoined : ∀ starred, joined starred (text.map .itself)
      = text.map .itself := by
    induction text with
    | nil => exact fun _ => rfl
    | cons c rest ih =>
        intro starred
        rw [List.map_cons, joined, if_neg (by simp [Sign.isRun]), ih]
  unfold piecesOf
  rw [hjoined, List.map_map]
  rfl

/-- Characters fit the text that they make. -/
theorem fits_chars : Fits (text.map .char) path ↔ path = text := by
  induction text generalizing path with
  | nil => exact fits_nil
  | cons c rest ih =>
      rw [List.map_cons, fits_single (by simp)]
      simp only [ih, Piece.takes, beq_iff_eq]
      constructor
      · intro h
        obtain ⟨d, more, rfl, rfl, rfl⟩ := h
        rfl
      · intro h
        exact ⟨c, rest, h, rfl, rfl⟩

/-- A literal text is a pattern that matches itself alone. -/
theorem matches_of_literal {pattern : String} (hne : pattern ≠ "")
    (h : Literal pattern.toList) :
    ∃ g, Glob.read pattern = .ok g
      ∧ ∀ path, g.matches path = true ↔ path = pattern := by
  have hord : ∀ sign ∈ pattern.toList.map Sign.itself, sign.InOrder :=
    List.forall_mem_map.2 fun _ _ => trivial
  refine ⟨_, read_eq_ok.2 ⟨hne, _, h.spells, hord, rfl⟩, fun path => ?_⟩
  rw [matches_whole, piecesOf_itself, fits_chars, String.toList_inj]

-- ============================================================= the operators

/-- The sign is not a character that stands for itself. -/
def Sign.operates : Sign → Bool
  | .itself _ => false
  | _ => true

/-- What takes one character other than a slash, and not every other one in
its place. -/
def Piece.firm : Piece → Bool
  | .char c => c != '/'
  | .oneOf _ => true
  | _ => false

/-- A text that characters for themselves spell is literal. -/
theorem Spells.literal (hs : Spells signs text)
    (hnone : ∀ sign ∈ signs, sign.operates = false) : Literal text := by
  intro c hc
  rw [← hs.1, List.mem_flatMap] at hc
  obtain ⟨sign, hsign, hc⟩ := hc
  have hlegible := hs.2 sign hsign
  cases sign with
  | itself d =>
      obtain rfl : c = d := List.mem_singleton.1 hc
      exact hlegible
  | _ => cases hnone _ hsign

/-- A sign is spelled with a character for its piece to hold on to, and with
one more if it operates. -/
theorem Sign.firm_add_operates_le (sign : Sign) :
    (if sign.piece.firm then 1 else 0) + (if sign.operates then 1 else 0)
      ≤ sign.spelled.countP (· != '/') := by
  cases sign with
  | stars more => simp [spelled, piece, Piece.firm, operates]
  | mark => simp [spelled, piece, Piece.firm, operates]
  | bracket negated body =>
      cases negated <;> simp [spelled, piece, Piece.firm, operates]
  | itself c => simp [spelled, piece, Piece.firm, operates, List.countP_cons]

/-- So are signs, and with one more for each that operates; stars that are
left out count with the characters that they are spelled with. -/
theorem firm_add_operates_le (starred : Bool) (signs : List Sign) :
    ((joined starred signs).map Sign.piece).countP Piece.firm
        + signs.countP Sign.operates
      ≤ (signs.flatMap Sign.spelled).countP (· != '/') := by
  induction signs generalizing starred with
  | nil => exact Nat.le_refl 0
  | cons sign signs ih =>
      have hsign := sign.firm_add_operates_le
      rw [List.flatMap_cons, List.countP_append, List.countP_cons, joined]
      by_cases hrun : (starred && sign.isRun) = true
      · have hrest := ih true
        rw [if_pos hrun]
        omega
      · have hrest := ih sign.isRun
        rw [if_neg hrun, List.map_cons, List.countP_cons]
        omega

/-- Where more characters are taken than are held on to, any other may stand
in the place of one of them. -/
theorem Fits.vary (h : Fits ps path)
    (hmore : ps.countP Piece.firm < path.countP (· != '/')) :
    ∃ front c back, path = front ++ c :: back ∧ c ≠ '/'
      ∧ ∀ d, d ≠ '\n' → Fits ps (front ++ d :: back) := by
  induction ps generalizing path with
  | nil =>
      rw [fits_nil.1 h] at hmore
      exact absurd hmore (Nat.not_lt_zero _)
  | cons p ps ih =>
      by_cases hp : p = .run
      · subst hp
        obtain ⟨part, rest, rfl, hpart, hf⟩ := fits_run.1 h
        by_cases hname : ∃ c ∈ part, c ≠ '/'
        · obtain ⟨c, hc, hslash⟩ := hname
          obtain ⟨front, back, rfl⟩ := List.append_of_mem hc
          refine ⟨front, c, back ++ rest, by simp, hslash, fun d hd => ?_⟩
          refine fits_run.2 ⟨front ++ d :: back, rest, by simp, ?_, hf⟩
          simp only [List.mem_append, List.mem_cons, not_or] at hpart ⊢
          exact ⟨hpart.1, Ne.symm hd, hpart.2.2⟩
        · have hslashes : part.countP (· != '/') = 0 := by
            rw [List.countP_eq_zero]
            simpa using hname
          rw [List.countP_append, hslashes, Nat.zero_add] at hmore
          obtain ⟨front, c, back, rfl, hslash, hvary⟩ := ih hf hmore
          refine ⟨part ++ front, c, back, by simp, hslash, fun d hd => ?_⟩
          exact fits_run.2 ⟨part, front ++ d :: back, by simp, hpart,
            hvary d hd⟩
      · obtain ⟨c, rest, rfl, hc, hf⟩ := (fits_single hp).1 h
        by_cases hrest : ps.countP Piece.firm < rest.countP (· != '/')
        · obtain ⟨front, e, back, rfl, hslash, hvary⟩ := ih hf hrest
          refine ⟨c :: front, e, back, rfl, hslash, fun d hd => ?_⟩
          exact (fits_single_cons hp).2 ⟨hc, hvary d hd⟩
        · -- The piece has taken one more than it holds on to.
          rw [List.countP_cons, List.countP_cons] at hmore
          have hslash : c ≠ '/' := by
            rintro rfl
            simp only [bne_self_eq_false, Bool.false_eq_true, if_false] at hmore
            omega
          have hfirm : p.firm = false := by
            by_contra hfirm
            rw [if_pos (by simpa using hfirm), if_pos (by simpa using hslash)]
              at hmore
            omega
          have hone : p = .one := by
            cases p with
            | run => exact absurd rfl hp
            | one => rfl
            | char e =>
                obtain rfl : e = c := by simpa [Piece.takes] using hc
                exact absurd (by simpa [Piece.firm] using hfirm) hslash
            | oneOf k => cases hfirm
          refine ⟨[], c, rest, rfl, hslash, fun d hd => ?_⟩
          subst hone
          exact (fits_single_cons hp).2 ⟨by simpa [Piece.takes] using hd, hf⟩

/-- A pattern with an operator that matches its own text matches what the
text becomes by a change of some character. -/
theorem matches_varied {pattern : String} {g : Glob}
    (hread : Glob.read pattern = .ok g) (hself : g.matches pattern = true)
    (hop : ¬ Literal pattern.toList) :
    ∃ front c back, pattern.toList = front ++ c :: back ∧ c ≠ '/'
      ∧ ∀ d, d ≠ '\n' →
        g.matches (String.ofList (front ++ d :: back)) = true := by
  obtain ⟨-, signs, hs, -, rfl⟩ := read_eq_ok.1 hread
  have hoperates : 0 < signs.countP Sign.operates := by
    rw [Nat.pos_iff_ne_zero]
    intro hzero
    refine hop (hs.literal fun sign hsign => ?_)
    exact Bool.not_eq_true _ ▸ List.countP_eq_zero.1 hzero sign hsign
  have hcount : (piecesOf signs).countP Piece.firm
      + signs.countP Sign.operates
      ≤ pattern.toList.countP (· != '/') :=
    hs.1 ▸ firm_add_operates_le false signs
  rw [matches_whole] at hself
  obtain ⟨front, c, back, hpath, hslash, hvary⟩ := hself.vary (by omega)
  refine ⟨front, c, back, hpath, hslash, fun d hd => ?_⟩
  rw [matches_whole, String.toList_ofList]
  exact hvary d hd

end BatchAdmin.Glob
