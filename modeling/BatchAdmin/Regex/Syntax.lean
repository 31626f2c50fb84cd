/-
Regular expressions: how their text is read.

The part of the syntax that is known here has characters, `.` for any
character but a line feed, classes in brackets, a star behind any of these
and the anchors `^` and `$`. A text with anything else in it is refused,
so nothing is ever given a meaning that it does not have.

A text is read in three passes. The first finds the characters that a
backslash makes stand for themselves (`tokens`). The second reads what
stands for one character, classes with all that is in them included
(`parts`), and the third joins the stars to what they stand behind
(`elements`).

In a class `-` makes a range of the characters to its sides, but not right
in front of the closing bracket or of another hyphen. Two of `&`, `-` or
`~` are an operator; operators are taken from the left, none before the
others. Hyphens at the front of a class stand for themselves, as does a
closing bracket that is the first character of it.
-/
import BatchAdmin.Regex.CharSet

namespace BatchAdmin.Regex

-- ========================================================== the expressions

/-- What stands for one character. -/
inductive Atom where
  /-- This character. -/
  | char (c : Char)
  /-- Any character but a line feed. -/
  | any
  /-- A character of the set. -/
  | oneOf (s : CharSet)
  deriving DecidableEq, Repr

/-- The character is one that the atom stands for. -/
def Atom.takes : Atom → Char → Bool
  | .char c, d => c == d
  | .any, d => d != '\n'
  | .oneOf s, d => s.has d

/-- What expressions are made of. -/
inductive Element where
  /-- One character. -/
  | one (a : Atom)
  /-- Any number of characters, each by the atom. -/
  | many (a : Atom)
  /-- The place where the text starts. -/
  | start
  /-- The place where the text stops. -/
  | stop
  deriving DecidableEq, Repr

end BatchAdmin.Regex

namespace BatchAdmin

/-- A regular expression: its elements one behind the other. -/
abbrev Regex := List Regex.Element

namespace Regex

/-- Why a text is not taken for an expression. -/
inductive Refusal where
  /-- A range starts behind its end. -/
  | reversedRange
  /-- Something is not written in the syntax known here. -/
  | foreign
  deriving DecidableEq, Repr

/-- Why an expression is refused, in words. -/
def Refusal.detail : Refusal → String
  | .reversedRange => "character range out of order"
  | .foreign => "unknown syntax"

-- =============================================================== the tokens

/-- A character of the text. -/
inductive Token where
  /-- As it stands. -/
  | plain (c : Char)
  /-- Behind a backslash: it stands for itself. -/
  | quoted (c : Char)
  deriving DecidableEq, Repr

/-- The character of the token. -/
def Token.char : Token → Char
  | .plain c => c
  | .quoted c => c

/-- The characters that can have a meaning of their own somewhere in an
expression, and that a backslash takes it from. -/
def metaCharacters : List Char :=
  ['\\', '.', '+', '*', '?', '(', ')', '|', '[', ']', '{', '}', '^', '$', '#',
    '&', '-', '~']

/-- The character with a backslash in front if it is one of these. -/
def guarded (special : List Char) (c : Char) : List Char :=
  if c ∈ special then ['\\', c] else [c]

/-- The text of an expression that takes this text and no other. -/
def escape (text : List Char) : List Char :=
  text.flatMap (guarded metaCharacters)

/-- The tokens of a text, or none when a backslash stands in front of what
it does not quote. -/
def tokens : List Char → Option (List Token)
  | [] => some []
  | c :: rest =>
      if c = '\\' then
        match rest with
        | [] => none
        | d :: more =>
            if d ∈ metaCharacters then (tokens more).map (.quoted d :: ·)
            else none
      else (tokens rest).map (.plain c :: ·)

-- ============================================================== the classes

/-- A class that is being read. -/
structure Bracket where
  /-- A circumflex stands in front. -/
  negated : Bool
  /-- The set to the left of the last operator, and the operator. -/
  left : Option (SetOp × CharSet)
  /-- What has been named since. -/
  named : CharSet

namespace Bracket

/-- A class with nothing in it. -/
def empty : Bracket :=
  { negated := false, left := none, named := .nothing }

/-- The set that has been read. -/
def set (b : Bracket) : CharSet :=
  match b.left with
  | none => b.named
  | some (op, s) => .combined op s b.named

/-- Something more is named. -/
def add (b : Bracket) (s : CharSet) : Bracket :=
  { b with named := .union b.named s }

/-- An operator stands behind what has been read. -/
def operate (b : Bracket) (op : SetOp) : Bracket :=
  { b with left := some (op, b.set), named := .nothing }

/-- The set of a class that ends here. -/
def close (b : Bracket) : CharSet :=
  if b.negated then .others b.set else b.set

end Bracket

/-- How much of the front of a class has been read. -/
inductive Front where
  /-- Nothing. -/
  | opened
  /-- A circumflex. -/
  | negated
  /-- Hyphens, behind a circumflex or not. -/
  | hyphens
  /-- All of it. -/
  | past
  deriving DecidableEq, Repr

/-- The operator that two tokens are in a class. -/
def operator : Token → Token → Option SetOp
  | .plain c, u => if u = .plain c then SetOp.ofChar c else none
  | .quoted _, _ => none

-- ================================================================ the parts

/-- An element, or a star that belongs to the one in front of it. -/
inductive Part where
  | atom (a : Atom)
  | star
  | start
  | stop
  deriving DecidableEq, Repr

/-- What a token is outside classes, if it opens none and is known. -/
def partOf : Token → Option Part
  | .quoted c => some (.atom (.char c))
  | .plain c =>
      if c = '.' then some (.atom .any)
      else if c = '*' then some .star
      else if c = '^' then some .start
      else if c = '$' then some .stop
      else if c ∈ ['+', '?', '(', ')', '|', '{'] then none
      else some (.atom (.char c))

/-- Where a reader stands. -/
inductive Place where
  /-- Outside all classes. -/
  | outside
  /-- In a class, and this in other classes, the innermost first. -/
  | within (front : Front) (b : Bracket) (outer : List Bracket)

/-- The parts that tokens make. -/
def parts : Place → List Token → Except Refusal (List Part)
  | .outside, [] => .ok []
  | .outside, t :: rest =>
      if t = .plain '[' then parts (.within .opened .empty []) rest
      else
        match partOf t with
        | none => .error .foreign
        | some p => (parts .outside rest).map (p :: ·)
  | .within .., [] => .error .foreign
  | .within front b outer, t :: rest =>
      if front = .opened ∧ t = .plain '^' then
        parts (.within .negated { b with negated := true } outer) rest
      else if front ≠ .past ∧ t = .plain '-' then
        parts (.within .hyphens (b.add (.single '-')) outer) rest
      else if (front = .opened ∨ front = .negated) ∧ t = .plain ']' then
        parts (.within .past (b.add (.single ']')) outer) rest
      else if t = .plain ']' then
        match outer with
        | [] => (parts .outside rest).map (.atom (.oneOf b.close) :: ·)
        | o :: outer => parts (.within .past (o.add b.close) outer) rest
      else if t = .plain '[' then
        if rest.head? = some (.plain ':') then .error .foreign
        else parts (.within .opened .empty (b :: outer)) rest
      else
        match rest with
        | [] => .error .foreign
        | u :: more =>
            match operator t u with
            | some op => parts (.within .past (b.operate op) outer) more
            | none =>
                let alone := b.add (.single t.char)
                if u = .plain '-' then
                  match more with
                  | [] => .error .foreign
                  | v :: behind =>
                      if v = .plain ']' ∨ v = .plain '-' then
                        parts (.within .past alone outer) (u :: v :: behind)
                      else if t.char ≤ v.char then
                        parts (.within .past
                          (b.add (.range ⟨t.char, v.char⟩)) outer) behind
                      else .error .reversedRange
                else parts (.within .past alone outer) (u :: more)

-- ============================================================= the elements

/-- The elements that parts make, or none when a star stands behind
nothing that it can repeat. -/
def elements : List Part → Option Regex
  | [] => some []
  | .atom a :: .star :: rest => (elements rest).map (.many a :: ·)
  | .atom a :: rest => (elements rest).map (.one a :: ·)
  | .star :: _ => none
  | .start :: rest => (elements rest).map (.start :: ·)
  | .stop :: rest => (elements rest).map (.stop :: ·)

/-- The expression that a text spells, or why there is none. -/
def read (text : List Char) : Except Refusal Regex :=
  match tokens text with
  | none => .error .foreign
  | some ts =>
      match parts .outside ts with
      | .error why => .error why
      | .ok ps =>
          match elements ps with
          | none => .error .foreign
          | some es => .ok es

end Regex

end BatchAdmin
