/-
Tables of characters, written as texts.

A table numbers characters from zero on. It is written as stretches: a
character with the count of characters in a row from it on, which is one
where no count is written. A hyphen stands for numbers that have no
character, and is counted in the same way.
-/
import BatchAdmin.Text.Numeral

namespace BatchAdmin.Text

/-- The lines of a table. -/
abbrev CharTable := List String

namespace CharTable

/-- The character of a number, in the stretches from one on; `fuel`
bounds their number. -/
def from? : Nat → List Char → Nat → Option Char
  | 0, _, _ => none
  | _, [], _ => none
  | fuel + 1, c :: rest, n =>
      let ds := rest.takeWhile Char.isDigit
      let size := if ds.isEmpty then 1 else digitsValue ds
      if n < size then
        if c == '-' then none else some (Char.ofNat (c.toNat + n))
      else from? fuel (rest.drop ds.length) (n - size)

/-- The character of a number, if it has one. -/
def get? (table : CharTable) (n : Nat) : Option Char :=
  let s := table.flatMap String.toList
  from? s.length s n

end CharTable

end BatchAdmin.Text
