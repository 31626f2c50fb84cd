/-
What the expression of a pattern matches, piece by piece.

Between its anchors such an expression is made of characters, dots, dots
with a star and classes: the pieces of a pattern. They match a path exactly
if the whole path can be cut into parts, one for each piece in order, such
that a run takes its part if there is no line feed in it and any other
piece takes a part of one character (`Fits`).

Because of the anchors a search finds nothing but a cut of the whole path
(`isMatch_whole`). For a run this rests on one equation: its part is empty
or begins with a character that is no line feed, and then the run fits what
follows too (`fits_run_cons`).
-/
import BatchAdmin.Proofs.Regex.Rows

namespace BatchAdmin.Glob

open Regex

-- ============================================================== the pieces

/-- A piece of a pattern. -/
inductive Piece where
  /-- Exactly this character. -/
  | char (c : Char)
  /-- One character, not a line feed. -/
  | one
  /-- Any run of characters without a line feed. -/
  | run
  /-- One character of a set. -/
  | oneOf (s : CharSet)
  deriving DecidableEq

/-- What the piece is in an expression. -/
def Piece.element : Piece → Element
  | .char c => .one (.char c)
  | .one => .one .any
  | .run => .many .any
  | .oneOf s => .one (.oneOf s)

/-- The piece takes exactly this one character. -/
def Piece.takes : Piece → Char → Bool
  | .char c, d => c == d
  | .one, d => d != '\n'
  | .run, _ => false
  | .oneOf s, d => s.has d

/-- The expression of a pattern with these pieces. -/
def whole (ps : List Piece) : Regex :=
  .start :: (ps.map Piece.element ++ [.stop])

variable {ps : List Piece} {d : Char} {path : List Char} {first : Bool}

-- ================================================================ the cuts

/-- The path can be cut into parts that the pieces take in order. -/
def Fits : List Piece → List Char → Prop
  | [], path => path = []
  | .run :: ps, path =>
      ∃ part rest, path = part ++ rest ∧ '\n' ∉ part ∧ Fits ps rest
  | p :: ps, path => ∃ c rest, path = c :: rest ∧ p.takes c ∧ Fits ps rest

@[simp] theorem fits_nil : Fits [] path ↔ path = [] := Iff.rfl

theorem fits_run : Fits (.run :: ps) path
    ↔ ∃ part rest, path = part ++ rest ∧ '\n' ∉ part ∧ Fits ps rest :=
  Iff.rfl

/-- Every piece that is no run takes one character. -/
theorem fits_single {p : Piece} (hp : p ≠ .run) :
    Fits (p :: ps) path
      ↔ ∃ c rest, path = c :: rest ∧ p.takes c ∧ Fits ps rest := by
  cases p with
  | run => exact absurd rfl hp
  | char c => exact Iff.rfl
  | one => exact Iff.rfl
  | oneOf s => exact Iff.rfl

theorem fits_single_nil {p : Piece} (hp : p ≠ .run) :
    ¬ Fits (p :: ps) [] := by
  rw [fits_single hp]
  intro h
  obtain ⟨c, rest, hpath, -⟩ := h
  cases hpath

theorem fits_single_cons {p : Piece} (hp : p ≠ .run) :
    Fits (p :: ps) (d :: path) ↔ p.takes d ∧ Fits ps path := by
  rw [fits_single hp]
  constructor
  · intro h
    obtain ⟨c, rest, hpath, hc, hf⟩ := h
    cases hpath
    exact ⟨hc, hf⟩
  · intro h
    exact ⟨d, path, rfl, h.1, h.2⟩

/-- At the end of the path a run takes nothing. -/
theorem fits_run_nil : Fits (.run :: ps) [] ↔ Fits ps [] := by
  rw [fits_run]
  constructor
  · intro h
    obtain ⟨part, rest, hpath, -, hf⟩ := h
    obtain ⟨rfl, rfl⟩ := List.append_eq_nil_iff.1 hpath.symm
    exact hf
  · intro hf
    exact ⟨[], [], rfl, List.not_mem_nil, hf⟩

/-- A run takes nothing, or the next character and then goes on. -/
theorem fits_run_cons : Fits (.run :: ps) (d :: path)
    ↔ Fits ps (d :: path) ∨ (d ≠ '\n' ∧ Fits (.run :: ps) path) := by
  rw [fits_run, fits_run]
  constructor
  · intro h
    obtain ⟨part, rest, hpath, hpart, hf⟩ := h
    cases part with
    | nil =>
        rw [List.nil_append] at hpath
        exact .inl (hpath ▸ hf)
    | cons c part =>
        obtain ⟨rfl, rfl⟩ := List.cons_eq_cons.1 hpath
        rw [List.mem_cons, not_or] at hpart
        exact .inr ⟨Ne.symm hpart.1, part, rest, rfl, hpart.2, hf⟩
  · intro h
    obtain hf | ⟨hd, part, rest, rfl, hpart, hf⟩ := h
    · exact ⟨[], d :: path, rfl, List.not_mem_nil, hf⟩
    · refine ⟨d :: part, rest, rfl, ?_, hf⟩
      rw [List.mem_cons, not_or]
      exact ⟨Ne.symm hd, hpart⟩

-- ============================================================== the search

/-- The element of a piece that is no run takes one character. -/
theorem Piece.exists_atom {p : Piece} (hp : p ≠ .run) :
    ∃ a, p.element = .one a ∧ ∀ c, a.takes c = p.takes c := by
  cases p with
  | run => exact absurd rfl hp
  | char c => exact ⟨.char c, rfl, fun _ => rfl⟩
  | one => exact ⟨.any, rfl, fun _ => rfl⟩
  | oneOf s => exact ⟨.oneOf s, rfl, fun _ => rfl⟩

/-- With an anchor behind them the elements of pieces take a part in front
of a text exactly if the pieces fit the text. -/
theorem starts_pieces :
    Starts (ps.map Piece.element ++ [.stop]) first path ↔ Fits ps path := by
  induction ps generalizing first path with
  | nil =>
      rw [List.map_nil, List.nil_append, starts_stop, fits_nil]
      exact and_iff_left starts_nil
  | cons p ps ih =>
      rw [List.map_cons, List.cons_append]
      by_cases hp : p = .run
      · subst hp
        show Starts (.many .any :: _) first path ↔ _
        induction path generalizing first with
        | nil => rw [starts_many_nil, ih, fits_run_nil]
        | cons d path ihpath =>
            rw [starts_many_cons, ih, ihpath, fits_run_cons]
            exact or_congr_right (and_congr_left' bne_iff_ne)
      · obtain ⟨a, ha, htakes⟩ := Piece.exists_atom hp
        rw [ha]
        cases path with
        | nil => exact iff_of_false starts_one_nil (fits_single_nil hp)
        | cons d path => rw [starts_one_cons, ih, htakes, fits_single_cons hp]

/-- The expression of a pattern matches the paths that can be cut for its
pieces. -/
theorem isMatch_whole : (whole ps).isMatch path = true ↔ Fits ps path := by
  rw [isMatch_iff_found, found_iff, or_iff_left]
  · unfold whole
    rw [starts_start, starts_pieces]
    exact and_iff_right rfl
  · intro h
    obtain ⟨before, rest, -, -, hs⟩ := h
    cases (starts_start.1 hs).1

end BatchAdmin.Glob
