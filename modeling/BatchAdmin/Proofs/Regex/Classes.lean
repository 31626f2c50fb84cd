/-
What becomes of a class that was quoted.

The text of a class is written with a backslash in front of some of its
characters. The reader then meets each character as a token that is quoted
or plain (`tokens_guarded`), and as the backslash, the bracket, the
circumflex, the ampersand and the tilde are quoted, no class begins in the
class and none of the operators but `--` can be met (`operator_classToken`).

What is left of the class syntax are characters, ranges and pairs of
hyphens: the items of the class (`items`). The reader adds up what they
name and combines it at each pair (`parts_class`), unless a range is
reversed; that is all it can refuse here.
-/
import BatchAdmin.Regex.Syntax
import Mathlib.Data.List.Infix

namespace BatchAdmin.Regex

variable {special body text : List Char} {c d : Char} {b : Bracket}
  {outer : List Bracket} {place : Front} {t u v : Token}
  {more rest : List Token}

-- =============================================================== the tokens

/-- The token that a character with a backslash before some is read as. -/
def Token.of (special : List Char) (c : Char) : Token :=
  if c ∈ special then .quoted c else .plain c

theorem Token.char_of (special : List Char) (c : Char) :
    (Token.of special c).char = c := by
  unfold Token.of
  by_cases h : c ∈ special
  · rw [if_pos h]
    rfl
  · rw [if_neg h]
    rfl

theorem Token.of_eq_plain :
    Token.of special c = .plain d ↔ c = d ∧ d ∉ special := by
  unfold Token.of
  by_cases h : c ∈ special
  · rw [if_pos h]
    refine iff_of_false nofun fun hd => hd.2 (hd.1 ▸ h)
  · rw [if_neg h, Token.plain.injEq]
    exact ⟨fun hcd => ⟨hcd, hcd ▸ h⟩, And.left⟩

/-- A character is read as the token that was written for it, if what is
quoted may be quoted and the backslash is. -/
theorem tokens_guarded (hs : special ⊆ metaCharacters) (hb : '\\' ∈ special)
    (c : Char) (text : List Char) :
    tokens (guarded special c ++ text)
      = (tokens text).map (Token.of special c :: ·) := by
  unfold guarded Token.of
  by_cases h : c ∈ special
  · rw [if_pos h, if_pos h, List.cons_append, List.cons_append,
      List.nil_append, tokens, if_pos rfl]
    exact if_pos (hs h)
  · have hc : c ≠ '\\' := fun hc => h (hc ▸ hb)
    rw [if_neg h, if_neg h, List.cons_append, List.nil_append, tokens.eq_def]
    exact if_neg hc

/-- So are all characters of a text. -/
theorem tokens_flatMap_guarded (hs : special ⊆ metaCharacters)
    (hb : '\\' ∈ special) (s text : List Char) :
    tokens (s.flatMap (guarded special) ++ text)
      = (tokens text).map (s.map (Token.of special) ++ ·) := by
  induction s with
  | nil => exact Option.map_id'.symm ▸ rfl
  | cons c s ih =>
      rw [List.flatMap_cons, List.append_assoc, tokens_guarded hs hb, ih,
        Option.map_map]
      rfl

theorem tokens_plain (hc : c ≠ '\\') (text : List Char) :
    tokens (c :: text) = (tokens text).map (.plain c :: ·) := by
  rw [tokens.eq_def]
  exact if_neg hc

theorem operator_close (hc : c ≠ ']') :
    operator (Token.of special c) (.plain ']') = none := by
  by_cases hs : c ∈ special
  · unfold Token.of
    rw [if_pos hs]
    rfl
  · unfold Token.of
    rw [if_neg hs]
    exact if_neg fun h => hc (Token.plain.inj h).symm

-- ================================================================ the steps

theorem parts_close (b : Bracket) (rest : List Token) :
    parts (.within .past b []) (.plain ']' :: rest)
      = (parts .outside rest).map (.atom (.oneOf b.close) :: ·) := by
  rw [parts.eq_def]
  rfl

/-- The token neither closes the class nor opens one in it. -/
def Token.Inner (t : Token) : Prop :=
  t ≠ .plain ']' ∧ t ≠ .plain '['

/-- Two tokens that are an operator. -/
theorem parts_operator {op : SetOp} (ht : t.Inner)
    (hop : operator t u = some op) :
    parts (.within .past b outer) (t :: u :: more)
      = parts (.within .past (b.operate op) outer) more := by
  rw [parts.eq_def]
  simp [ht.1, ht.2, hop]

/-- A token that stands for its character alone. -/
theorem parts_alone (ht : t.Inner) (hop : operator t u = none)
    (hu : u = .plain '-' →
      ∃ v behind, more = v :: behind ∧ (v = .plain ']' ∨ v = .plain '-')) :
    parts (.within .past b outer) (t :: u :: more)
      = parts (.within .past (b.add (.single t.char)) outer) (u :: more) := by
  rw [parts.eq_def]
  by_cases hyphen : u = .plain '-'
  · obtain ⟨v, behind, rfl, hv⟩ := hu hyphen
    subst hyphen
    simp [ht.1, ht.2, hop, hv]
  · simp [ht.1, ht.2, hop, hyphen]

/-- A token that begins a range. -/
theorem parts_range (ht : t.Inner) (hop : operator t (.plain '-') = none)
    (hv : v ≠ .plain ']' ∧ v ≠ .plain '-') :
    parts (.within .past b outer) (t :: .plain '-' :: v :: rest)
      = if t.char ≤ v.char then
          parts (.within .past (b.add (.range ⟨t.char, v.char⟩)) outer) rest
        else .error .reversedRange := by
  rw [parts.eq_def]
  simp [ht.1, ht.2, hop, hv.1, hv.2]

/-- A hyphen in the front of a class stands for itself. -/
theorem parts_front_hyphen (hplace : place ≠ .past) :
    parts (.within place b outer) (.plain '-' :: rest)
      = parts (.within .hyphens (b.add (.single '-')) outer) rest := by
  rw [parts.eq_def]
  simp [hplace]

/-- The front of a class ends at any token that does not belong to it. -/
theorem parts_front_past (hcaret : t ≠ .plain '^') (hhyphen : t ≠ .plain '-')
    (hclose : t ≠ .plain ']' ∨ place = .hyphens) :
    parts (.within place b outer) (t :: rest)
      = parts (.within .past b outer) (t :: rest) := by
  rw [parts.eq_def, parts.eq_def]
  obtain hclose | rfl := hclose
  · simp [hcaret, hhyphen, hclose]
  · simp [hhyphen]

-- ================================================================ the items

/-- What is left of the class syntax when everything else is quoted. -/
inductive Item where
  /-- A character or a range of them. -/
  | range (r : CharRange)
  /-- Two hyphens: what follows is taken out. -/
  | minus
  deriving DecidableEq, Repr

/-- The items of a class behind its front. -/
def items : List Char → List Item
  | [] => []
  | [c] => [.range ⟨c, c⟩]
  | c :: d :: rest =>
      if c = '-' ∧ d = '-' then .minus :: items rest
      else if c ≠ '-' ∧ d = '-' ∧ rest.head? ≠ some '-' then
        match rest with
        | e :: rest' => .range ⟨c, e⟩ :: items rest'
        | [] => [.range ⟨c, c⟩, .range ⟨d, d⟩]
      else .range ⟨c, c⟩ :: items (d :: rest)

/-- The ranges of a list of items. -/
def rangesOf (is : List Item) : List CharRange :=
  is.filterMap fun
    | .range r => some r
    | .minus => none

/-- The class with an item behind what has been read of it. -/
def Bracket.take (b : Bracket) : Item → Bracket
  | .range r => b.add (.range r)
  | .minus => b.operate .without

/-- The ranges have their ends in order. -/
def InOrder (rs : List CharRange) : Prop :=
  ∀ r ∈ rs, r.low ≤ r.high

instance (rs : List CharRange) : Decidable (InOrder rs) :=
  List.decidableBAll _ rs

-- =============================================================== the reader

/-- The characters that have to be quoted for a class to have no operators
but `--`. -/
structure Neutral (special : List Char) : Prop where
  backslash : '\\' ∈ special
  bracket : '[' ∈ special
  caret : '^' ∈ special
  ampersand : '&' ∈ special
  tilde : '~' ∈ special
  hyphen : '-' ∉ special
  close : ']' ∉ special

namespace Neutral

variable (hn : Neutral special)
include hn

theorem inner_of (hc : c ≠ ']') : (Token.of special c).Inner := by
  constructor
  · intro h
    exact hc (Token.of_eq_plain.1 h).1
  · intro h
    exact (Token.of_eq_plain.1 h).2 hn.bracket

theorem eq_hyphen : Token.of special c = .plain '-' ↔ c = '-' :=
  Token.of_eq_plain.trans (and_iff_left hn.hyphen)

theorem ne_close (hc : c ≠ ']') : Token.of special c ≠ .plain ']' :=
  (hn.inner_of hc).1

/-- Two hyphens are the only operator that is left. -/
theorem operator_of (c d : Char) :
    operator (Token.of special c) (Token.of special d)
      = if c = '-' ∧ d = '-' then some .without else none := by
  by_cases hc : c ∈ special
  · have hne : c ≠ '-' := fun h => hn.hyphen (h ▸ hc)
    rw [if_neg fun h => hne h.1]
    unfold Token.of
    rw [if_pos hc]
    rfl
  · have hof : Token.of special c = .plain c := if_neg hc
    rw [hof]
    show (if Token.of special d = .plain c then SetOp.ofChar c else none) = _
    by_cases hd : Token.of special d = .plain c
    · obtain ⟨rfl, -⟩ := Token.of_eq_plain.1 hd
      have hand : d ≠ '&' := fun h => hc (h ▸ hn.ampersand)
      have htilde : d ≠ '~' := fun h => hc (h ▸ hn.tilde)
      rw [if_pos hd]
      unfold SetOp.ofChar
      rw [if_neg hand, if_neg htilde]
      exact if_congr (and_self_iff).symm rfl rfl
    · have hcd : ¬ (c = '-' ∧ d = '-') := by
        intro h
        obtain ⟨rfl, rfl⟩ := h
        exact hd hof
      rw [if_neg hd, if_neg hcd]

/-- Behind its front a quoted class is read item by item. -/
theorem parts_past (hclose : ']' ∉ body) (b : Bracket) (rest : List Token) :
    parts (.within .past b [])
        (body.map (Token.of special) ++ .plain ']' :: rest)
      = if InOrder (rangesOf (items body)) then
          (parts .outside rest).map
            (.atom (.oneOf ((items body).foldl Bracket.take b).close) :: ·)
        else .error .reversedRange := by
  have hinner : ∀ x ∈ body, (Token.of special x).Inner := fun x hx =>
    hn.inner_of fun h => hclose (h ▸ hx)
  fun_induction items body generalizing b with
  | case1 =>
      rw [if_pos nofun]
      exact parts_close b rest
  | case2 c =>
      have hc : c ≠ ']' := fun h => hclose (by rw [h]; exact List.mem_cons_self)
      have hsingle : InOrder (rangesOf [.range ⟨c, c⟩]) := by
        intro r hr
        obtain rfl := List.mem_singleton.1 hr
        exact Char.le_refl c
      rw [if_pos hsingle]
      show parts _ (Token.of special c :: .plain ']' :: rest) = _
      rw [parts_alone (hn.inner_of hc) (operator_close hc) nofun, parts_close,
        Token.char_of]
      rfl
  | case3 c d more h ih =>
      obtain ⟨rfl, rfl⟩ := h
      have hop := hn.operator_of '-' '-'
      rw [if_pos ⟨rfl, rfl⟩] at hop
      have hmore := ih (fun hm => hclose (.tail _ (.tail _ hm))) (b.operate .without)
        fun x hx => hinner x (.tail _ (.tail _ hx))
      show parts _ (Token.of special '-' :: Token.of special '-' :: _) = _
      rw [parts_operator (hinner '-' List.mem_cons_self) hop]
      exact hmore
  | case4 c d _ e more h ih =>
      obtain ⟨hc, rfl, he⟩ := h
      have hhyphen : Token.of special '-' = .plain '-' := hn.eq_hyphen.2 rfl
      have hop := hn.operator_of c '-'
      rw [if_neg fun h => hc h.1, hhyphen] at hop
      have hmore := ih (fun hm => hclose (.tail _ (.tail _ (.tail _ hm))))
        (b.add (.range ⟨c, e⟩))
        fun x hx => hinner x (.tail _ (.tail _ (.tail _ hx)))
      have hv : Token.of special e ≠ .plain '-' := fun h =>
        he (by rw [List.head?_cons, hn.eq_hyphen.1 h])
      show parts _ (Token.of special c :: Token.of special '-'
        :: Token.of special e :: _) = _
      rw [hhyphen, parts_range (hinner c List.mem_cons_self) hop
        ⟨(hinner e (.tail _ (.tail _ List.mem_cons_self))).1, hv⟩,
        Token.char_of, Token.char_of]
      have horder : InOrder (rangesOf (.range ⟨c, e⟩ :: items more))
          ↔ c ≤ e ∧ InOrder (rangesOf (items more)) := List.forall_mem_cons
      by_cases hle : c ≤ e
      · rw [if_pos hle]
        refine hmore.trans (if_congr ?_ rfl rfl)
        rw [horder, and_iff_right hle]
      · rw [if_neg hle, if_neg fun h => hle (horder.1 h).1]
  | case5 c d _ h =>
      obtain ⟨hc, rfl, -⟩ := h
      have hhyphen : Token.of special '-' = .plain '-' := hn.eq_hyphen.2 rfl
      have hop := hn.operator_of c '-'
      rw [if_neg fun h => hc h.1] at hop
      have hboth : InOrder (rangesOf [.range ⟨c, c⟩, .range ⟨'-', '-'⟩]) := by
        refine List.forall_mem_cons.2 ⟨Char.le_refl c, ?_⟩
        exact List.forall_mem_cons.2 ⟨Char.le_refl _, nofun⟩
      rw [if_pos hboth]
      show parts _ (Token.of special c :: Token.of special '-'
        :: .plain ']' :: rest) = _
      rw [parts_alone (hinner c List.mem_cons_self) hop
          fun _ => ⟨_, rest, rfl, .inl rfl⟩,
        parts_alone (hn.inner_of (by decide)) (operator_close (by decide)) nofun,
        parts_close, Token.char_of, Token.char_of]
      rfl
  | case6 c d more hpair h ih =>
      have hop := hn.operator_of c d
      rw [if_neg hpair] at hop
      have hmore := ih (fun hm => hclose (.tail _ hm)) (b.add (.range ⟨c, c⟩))
        fun x hx => hinner x (.tail _ hx)
      show parts _ (Token.of special c :: Token.of special d
        :: (more.map (Token.of special) ++ .plain ']' :: rest)) = _
      rw [parts_alone (hinner c List.mem_cons_self) hop, Token.char_of]
      · have horder : InOrder (rangesOf (.range ⟨c, c⟩ :: items (d :: more)))
            ↔ InOrder (rangesOf (items (d :: more))) :=
          List.forall_mem_cons.trans (and_iff_right (Char.le_refl c))
        exact hmore.trans (if_congr horder.symm rfl rfl)
      · intro hd
        have hd := hn.eq_hyphen.1 hd
        have hc : c ≠ '-' := fun hc => hpair ⟨hc, hd⟩
        cases more with
        | nil => exact ⟨_, rest, rfl, .inl rfl⟩
        | cons e more =>
            refine ⟨_, _, rfl, .inr (hn.eq_hyphen.2 ?_)⟩
            by_contra he
            exact h ⟨hc, hd, by simpa using he⟩

end Neutral

-- ============================================================== the classes

/-- What stands behind the hyphens at the front of a class. -/
def core (body : List Char) : List Char :=
  body.dropWhile (· == '-')

/-- The class with the hyphens at its front. -/
def Bracket.hyphens (b : Bracket) (body : List Char) : Bracket :=
  (body.takeWhile (· == '-')).foldl (fun b c => b.add (.single c)) b

/-- The set of a class that is quoted, with a circumflex in front or
not. -/
def classSet (negated : Bool) (body : List Char) : CharSet :=
  ((items (core body)).foldl Bracket.take
    (Bracket.hyphens { Bracket.empty with negated } body)).close

namespace Neutral

variable (hn : Neutral special)
include hn

/-- In its front a class takes hyphens for themselves. -/
theorem parts_front (hclose : ']' ∉ body) (hplace : place ≠ .past)
    (hbody : body ≠ [] ∨ place = .hyphens) (b : Bracket) (rest : List Token) :
    parts (.within place b [])
        (body.map (Token.of special) ++ .plain ']' :: rest)
      = if InOrder (rangesOf (items (core body))) then
          (parts .outside rest).map
            (.atom (.oneOf ((items (core body)).foldl Bracket.take
              (b.hyphens body)).close) :: ·)
        else .error .reversedRange := by
  induction body generalizing place b with
  | nil =>
      have hhyphens := hbody.resolve_left (absurd rfl)
      rw [List.map_nil, List.nil_append,
        parts_front_past (by decide) (by decide) (.inr hhyphens), parts_close]
      exact (if_pos nofun).symm
  | cons c body ih =>
      have hrest : ']' ∉ body := fun h => hclose (.tail _ h)
      by_cases hc : c = '-'
      · subst hc
        have hhyphen : Token.of special '-' = .plain '-' := hn.eq_hyphen.2 rfl
        rw [List.map_cons, hhyphen, List.cons_append, parts_front_hyphen hplace,
          ih hrest (by decide) (.inr rfl)]
        rfl
      · have hne : c ≠ ']' := fun h => hclose (h ▸ List.mem_cons_self)
        have hinner : core (c :: body) = c :: body := by simp [core, hc]
        have hnone : b.hyphens (c :: body) = b := by simp [Bracket.hyphens, hc]
        rw [hinner, hnone, ← hn.parts_past hclose b rest, List.map_cons,
          List.cons_append]
        refine parts_front_past ?_ ?_ (.inl (hn.ne_close hne))
        · exact fun h => (Token.of_eq_plain.1 h).2 hn.caret
        · exact fun h => hc (hn.eq_hyphen.1 h)

/-- The text of a class without a circumflex in front. -/
theorem parts_class (hclose : ']' ∉ body) (hbody : body ≠ [])
    (rest : List Token) :
    parts .outside
        (.plain '[' :: (body.map (Token.of special) ++ .plain ']' :: rest))
      = if InOrder (rangesOf (items (core body))) then
          (parts .outside rest).map
            (.atom (.oneOf (classSet false body)) :: ·)
        else .error .reversedRange := by
  rw [parts, if_pos rfl]
  exact hn.parts_front hclose (by decide) (.inl hbody) _ rest

/-- The text of a class with a circumflex in front. -/
theorem parts_class_negated (hclose : ']' ∉ body) (hbody : body ≠ [])
    (rest : List Token) :
    parts .outside
        (.plain '[' :: .plain '^'
          :: (body.map (Token.of special) ++ .plain ']' :: rest))
      = if InOrder (rangesOf (items (core body))) then
          (parts .outside rest).map
            (.atom (.oneOf (classSet true body)) :: ·)
        else .error .reversedRange := by
  rw [parts, if_pos rfl, parts.eq_def]
  exact (if_pos ⟨rfl, rfl⟩).trans
    (hn.parts_front hclose (by decide) (.inl hbody) _ rest)

end Neutral

end BatchAdmin.Regex
