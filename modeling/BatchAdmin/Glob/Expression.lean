/-
Glob patterns: the regular expression that a pattern stands for.

`*` is written as `.*`, once for all stars in a row, and `?` as `.`. A class
`[…]` is written as a class and `[!…]` as one with a circumflex; it ends at
the first `]` and may not be empty. Every other character is escaped, and
anchors at both ends ask for the whole path.

In a class the characters that could open, negate or combine sets, or quote
others, get a backslash. The hyphen gets none, as it makes the ranges.
-/
import BatchAdmin.Regex.Syntax

namespace BatchAdmin.Glob

open Regex

/-- The characters that are quoted in a class. -/
def classMeta : List Char :=
  ['\\', '[', '^', '&', '~']

/-- Where the writer stands in a pattern. -/
inductive Mode where
  /-- Outside classes; behind a star or not. -/
  | outside (starred : Bool)
  /-- Right behind the bracket that opens a class. -/
  | opened
  /-- In a class, with what has been written of it. -/
  | inside (written : List Char)

/-- What is written for a pattern text, or none when a class is open or
empty. -/
def translate : Mode → List Char → Option (List Char)
  | .outside _, [] => some []
  | .outside starred, c :: rest =>
      if c = '*' then
        if starred then translate (.outside true) rest
        else (translate (.outside true) rest).map (['.', '*'] ++ ·)
      else if c = '?' then (translate (.outside false) rest).map (['.'] ++ ·)
      else if c = '[' then translate .opened rest
      else (translate (.outside false) rest).map (escape [c] ++ ·)
  | .opened, [] => none
  | .opened, c :: rest =>
      if c = '!' then translate (.inside ['^']) rest
      else if c = ']' then none
      else translate (.inside (guarded classMeta c)) rest
  | .inside _, [] => none
  | .inside written, c :: rest =>
      if c = ']' then
        if written = [] ∨ written = ['^'] then none
        else
          (translate (.outside false) rest).map
            ('[' :: (written ++ [']']) ++ ·)
      else translate (.inside (written ++ guarded classMeta c)) rest

/-- The text between the anchors. -/
def anchored (text : List Char) : List Char :=
  '^' :: (text ++ ['$'])

/-- The expression of a pattern text, or none when a class is open or
empty. -/
def expression (pattern : List Char) : Option (List Char) :=
  (translate (.outside false) pattern).map anchored

end BatchAdmin.Glob
