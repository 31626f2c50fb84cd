/-
Glob patterns: which texts are patterns, and what they match.

A pattern is kept as its text and the regular expression that it stands
for. A separator is a character like any other, so a bare `*` reaches into
every folder. Whether the ranges of its classes are in order is looked at
when the expression is read, so of a pattern with both faults the
unfinished class is reported.
-/
import BatchAdmin.Failure
import BatchAdmin.Glob.Expression
import BatchAdmin.Regex.Search

namespace BatchAdmin

namespace Glob

/-- Why a text is no pattern. -/
inductive Fault where
  /-- The pattern has no character. -/
  | empty
  /-- A class is not closed or has nothing in it. -/
  | openClass
  /-- The expression is refused. -/
  | refused (why : Regex.Refusal)
  deriving DecidableEq, Repr

/-- What is wrong with a pattern, in words. -/
def Fault.detail (source : String) : Fault → String
  | .empty => "pattern must not be empty"
  | .openClass => source ++ ": unterminated or empty character class"
  | .refused why => source ++ ": " ++ why.detail

/-- The regular expression of a pattern text, or what is wrong with it. -/
def compile (s : List Char) : Except Fault Regex :=
  if s.isEmpty then .error .empty
  else
    match expression s with
    | none => .error .openClass
    | some text =>
        match Regex.read text with
        | .error why => .error (.refused why)
        | .ok regex => .ok regex

end Glob

/-- A pattern that names staged files. -/
structure Glob where
  /-- The pattern as it was given. -/
  source : String
  regex : Regex
  deriving DecidableEq, Repr

/-- The pattern a text spells. -/
def Glob.read (source : String) : Answer Glob :=
  match Glob.compile source.toList with
  | .ok regex => .ok { source, regex }
  | .error fault => .error (.invalidPattern (fault.detail source))

/-- The pattern matches the path. -/
def Glob.matches (g : Glob) (path : String) : Bool :=
  g.regex.isMatch path.toList

end BatchAdmin
