/-
Sets of characters as regular expressions spell them.

A class in brackets is a set of characters. It is made of characters and
ranges, which add up, of the operators `&&`, `--` and `~~` between two such
unions, and of classes in it; a circumflex in front turns it into the set
of all other characters.
-/
namespace BatchAdmin.Regex

/-- All characters from `low` to `high`. -/
structure CharRange where
  low : Char
  high : Char
  deriving DecidableEq, Repr

/-- The character lies in the range. -/
def CharRange.has (r : CharRange) (c : Char) : Bool :=
  r.low ≤ c && c ≤ r.high

/-- An operator between two sets. -/
inductive SetOp where
  /-- `&&`: the characters in both. -/
  | both
  /-- `--`: the characters of the first that are not in the second. -/
  | without
  /-- `~~`: the characters in one of them, and not in the other. -/
  | either
  deriving DecidableEq, Repr

/-- The operator that two of a character stand for. -/
def SetOp.ofChar (c : Char) : Option SetOp :=
  if c = '&' then some .both
  else if c = '-' then some .without
  else if c = '~' then some .either
  else none

/-- Whether a character is in the combined set, by whether it is in the
one and in the other. -/
def SetOp.holds : SetOp → Bool → Bool → Bool
  | .both, here, there => here && there
  | .without, here, there => here && !there
  | .either, here, there => here != there

/-- A set of characters. -/
inductive CharSet where
  | nothing
  | range (r : CharRange)
  | union (s t : CharSet)
  | combined (op : SetOp) (s t : CharSet)
  /-- All characters that are not in the set, line feeds included. -/
  | others (s : CharSet)
  deriving DecidableEq, Repr

/-- The character is in the set. -/
def CharSet.has : CharSet → Char → Bool
  | .nothing, _ => false
  | .range r, c => r.has c
  | .union s t, c => s.has c || t.has c
  | .combined op s t, c => op.holds (s.has c) (t.has c)
  | .others s, c => !s.has c

/-- The set of one character. -/
def CharSet.single (c : Char) : CharSet :=
  .range ⟨c, c⟩

end BatchAdmin.Regex
