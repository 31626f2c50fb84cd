/-
What a pattern says, apart from how it is read.

A pattern is spelled by signs: runs of stars, question marks, classes in
brackets and characters that stand for themselves. `Spells` says which
signs spell a text, with nothing of the reader in it: their spellings
follow one another and make the text. A class cannot be spelled empty or
with a closing bracket in it, and what looks like the start of a class is
no character for itself, so a text with an open or empty class is spelled
by no signs at all.

What a sign takes of a path is a part of it (`Sign.Takes`), and a path is
split along the signs when it is cut into parts that they take in order
(`Splits`).

The body of a class lists characters and ranges, read from the left
(`Lists`). A hyphen with something to both sides makes a range of them;
it stands for itself where no range can be read: at the front, right
behind a range, and at the end. Two hyphens in a row are an operator to
the reader and say something else; a body without them is `Plain`.
-/
import BatchAdmin.Regex.CharSet
import Mathlib.Data.List.Forall2
import Mathlib.Data.List.Infix

namespace BatchAdmin.Glob

open Regex

-- ========================================================== the class bodies

/-- What a class body lists, read from the left. A character is listed by
itself where no range begins with it, and a hyphen where it is read
first: no range begins with a hyphen. -/
inductive Lists : List Char → List CharRange → Prop
  | nil : Lists [] []
  | range {x y : Char} {rest : List Char} {rs : List CharRange} :
      x ≠ '-' → Lists rest rs → Lists (x :: '-' :: y :: rest) (⟨x, y⟩ :: rs)
  | itself {x : Char} {rest : List Char} {rs : List CharRange} :
      (x = '-' ∨ ∀ y more, rest ≠ '-' :: y :: more) → Lists rest rs →
      Lists (x :: rest) (⟨x, x⟩ :: rs)

/-- The body lists the character, by itself or in a range. -/
def Listed (body : List Char) (c : Char) : Prop :=
  ∃ rs, Lists body rs ∧ ∃ r ∈ rs, r.low ≤ c ∧ c ≤ r.high

/-- Every range of the body begins no later than it ends. -/
def Ordered (body : List Char) : Prop :=
  ∀ rs, Lists body rs → ∀ r ∈ rs, r.low ≤ r.high

/-- No two hyphens stand next to each other. -/
def Plain (body : List Char) : Prop := ¬ ['-', '-'] <:+: body

instance (body : List Char) : Decidable (Plain body) :=
  inferInstanceAs (Decidable (¬ ['-', '-'] <:+: body))

theorem Plain.tail {x : Char} {body : List Char} (h : Plain (x :: body)) :
    Plain body :=
  fun hi => h (hi.trans (List.suffix_cons x body).isInfix)

theorem Plain.ne {x : Char} {rest : List Char} (h : Plain ('-' :: x :: rest)) :
    x ≠ '-' := by
  rintro rfl
  exact h ⟨[], rest, rfl⟩

/-- A body is read in one way only. -/
theorem Lists.unique {body : List Char} {rs ss : List CharRange}
    (hr : Lists body rs) (hs : Lists body ss) : rs = ss := by
  induction hr generalizing ss with
  | nil => cases hs; rfl
  | range hx _ ih =>
      cases hs with
      | range _ hs => rw [ih hs]
      | itself hx' _ =>
          rcases hx' with rfl | hno
          · exact absurd rfl hx
          · exact absurd rfl (hno _ _)
  | itself hx _ ih =>
      cases hs with
      | range hx' _ =>
          rcases hx with rfl | hno
          · exact absurd rfl hx'
          · exact absurd rfl (hno _ _)
      | itself _ hs => rw [ih hs]

-- =============================================================== the signs

/-- What a pattern is spelled by. -/
inductive Sign where
  /-- A run of stars: one and `more`. -/
  | stars (more : Nat)
  /-- A question mark. -/
  | mark
  /-- A class in brackets, with an exclamation mark in front or not. -/
  | bracket (negated : Bool) (body : List Char)
  /-- Any other character. -/
  | itself (c : Char)

namespace Sign

/-- The spelling of a sign. -/
def spelled : Sign → List Char
  | .stars more => List.replicate (more + 1) '*'
  | .mark => ['?']
  | .bracket true body => '[' :: '!' :: body ++ [']']
  | .bracket false body => '[' :: body ++ [']']
  | .itself c => [c]

/-- The spelling says this sign and no other: a class has something in
it, ends at its closing bracket, and has an exclamation mark in front
only if it is negated; a character for itself is none of the others. -/
def Legible : Sign → Prop
  | .bracket negated body =>
      body ≠ [] ∧ ']' ∉ body ∧ (negated = false → body.head? ≠ some '!')
  | .itself c => c ≠ '*' ∧ c ≠ '?' ∧ c ≠ '['
  | _ => True

/-- A class in the sign has its ranges in order. -/
def Ordered : Sign → Prop
  | .bracket _ body => Glob.Ordered body
  | _ => True

/-- A class in the sign has no two hyphens next to each other. -/
def Plain : Sign → Prop
  | .bracket _ body => Glob.Plain body
  | _ => True

/-- The part of a path is one that the sign takes. -/
def Takes : Sign → List Char → Prop
  | .stars _, part => '\n' ∉ part
  | .mark, part => ∃ c, part = [c] ∧ c ≠ '\n'
  | .bracket false body, part => ∃ c, part = [c] ∧ Listed body c
  | .bracket true body, part => ∃ c, part = [c] ∧ ¬ Listed body c
  | .itself c, part => part = [c]

end Sign

-- ============================================================ the spellings

/-- The signs spell the text. -/
def Spells (signs : List Sign) (text : List Char) : Prop :=
  signs.flatMap Sign.spelled = text ∧ ∀ sign ∈ signs, sign.Legible

theorem spells_nil : Spells [] [] := ⟨rfl, fun _ h => nomatch h⟩

theorem Spells.cons {sign : Sign} {signs : List Sign} {text : List Char}
    (hl : sign.Legible) (hs : Spells signs text) :
    Spells (sign :: signs) (sign.spelled ++ text) := by
  refine ⟨by rw [List.flatMap_cons, hs.1], ?_⟩
  intro s hmem
  rcases List.mem_cons.1 hmem with rfl | hmem
  · exact hl
  · exact hs.2 s hmem

/-- The body of a class stands in the text that the class is spelled
in. -/
theorem Spells.body_infix {signs : List Sign} {text : List Char}
    (hs : Spells signs text) {negated : Bool} {body : List Char}
    (hmem : .bracket negated body ∈ signs) : body <:+: text := by
  have hbody : body <:+: (Sign.bracket negated body).spelled := by
    cases negated with
    | true => exact ⟨['[', '!'], [']'], rfl⟩
    | false => exact ⟨['['], [']'], rfl⟩
  rw [← hs.1, List.flatMap_def]
  exact hbody.trans (List.infix_of_mem_flatten (List.mem_map_of_mem hmem))

/-- In a text without two hyphens in a row every class is plain. -/
theorem Spells.plain {signs : List Sign} {text : List Char}
    (hs : Spells signs text) (hp : Plain text) :
    ∀ sign ∈ signs, sign.Plain := by
  intro sign hmem
  cases sign with
  | bracket negated body =>
      exact fun hi => hp (hi.trans (hs.body_infix hmem))
  | _ => trivial

-- =============================================================== the splits

/-- The path is split along the signs: it is cut into parts that they
take in order. -/
def Splits (signs : List Sign) (path : List Char) : Prop :=
  ∃ parts, path = parts.flatten ∧ List.Forall₂ Sign.Takes signs parts

theorem splits_nil {path : List Char} : Splits [] path ↔ path = [] := by
  constructor
  · rintro ⟨parts, rfl, htakes⟩
    cases htakes
    rfl
  · rintro rfl
    exact ⟨[], rfl, .nil⟩

/-- The first sign takes a part in front, the others split the rest. -/
theorem splits_cons {sign : Sign} {signs : List Sign} {path : List Char} :
    Splits (sign :: signs) path
      ↔ ∃ part rest, path = part ++ rest ∧ sign.Takes part
          ∧ Splits signs rest := by
  constructor
  · rintro ⟨parts, rfl, htakes⟩
    cases htakes with
    | @cons _ part _ parts hpart htakes =>
        exact ⟨part, parts.flatten, rfl, hpart, parts, rfl, htakes⟩
  · rintro ⟨part, rest, rfl, hpart, parts, rfl, htakes⟩
    exact ⟨part :: parts, rfl, .cons hpart htakes⟩

end BatchAdmin.Glob
