/-
Whether a text has a part that an expression takes.

The part may stand anywhere in the text, unless the expression has anchors.
A star takes parts of any length, so there are many ways to take a text;
trying them one by one would cost more with every star.

The text is therefore gone through once, from its end. For each place one
row is kept: for every tail of the expression, whether it takes a part of
the text that begins at that place. A row is computed from the next
character and the row behind it (`rowAt`); a part is found if the entry for
the whole expression is true in the row of some place.
-/
import BatchAdmin.Regex.Syntax

namespace BatchAdmin.Regex

/-- The row of a place, from the row behind it. The place may be the first
of the text; no character follows at its end. -/
def rowAt (first : Bool) (next : Option Char) :
    Regex → List Bool → List Bool
  | [], _ => [true]
  | e :: es, row =>
      let behind := rowAt first next es row.tail
      let here :=
        match e with
        | .one a => next.any a.takes && row.tail.headD false
        | .many a =>
            behind.headD false || (next.any a.takes && row.headD false)
        | .start => first && behind.headD false
        | .stop => next.isNone && behind.headD false
      here :: behind

/-- The row of a place that is not the first, with the text behind it, and
whether a part is found there or further on. -/
def rowsFrom (re : Regex) : List Char → List Bool × Bool
  | [] =>
      let row := rowAt false none re []
      (row, row.headD false)
  | d :: rest =>
      let (behind, found) := rowsFrom re rest
      let row := rowAt false (some d) re behind
      (row, row.headD false || found)

/-- The expression takes a part of the text. -/
def isMatch (re : Regex) : List Char → Bool
  | [] => (rowAt true none re []).headD false
  | d :: rest =>
      let (behind, found) := rowsFrom re rest
      (rowAt true (some d) re behind).headD false || found

end BatchAdmin.Regex
