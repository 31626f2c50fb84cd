/-
Decimal numbers as digits and a power of ten, and how they are written.

A `Decimal` stands for `± digits · 10^exponent`. It is the form in which
fractional numbers are carried through documents: nothing is rounded on
the way, and the written form is chosen at the very end.

The written form always shows that the number is fractional: it has a
point or an exponent. Positional notation is used while the leading
digit stands at most sixteen places before the point and at most four
behind it; beyond that the number is written with one digit before the
point and a signed exponent of at least two digits.
-/
import BatchAdmin.Text.Numeral

namespace BatchAdmin

open Text

/-- A decimal number: `± digits · 10^exponent`. -/
structure Decimal where
  negative : Bool
  digits : Nat
  exponent : Int
  deriving DecidableEq, Repr

namespace Decimal

/-- The digits with a point `behind` places from their end; zeros are
put in front where there are too few. -/
def pointed (ds : List Char) (behind : Nat) : List Char :=
  let full := List.replicate (behind + 1 - ds.length) '0' ++ ds
  let whole := full.take (full.length - behind)
  let fraction := full.drop (full.length - behind)
  whole ++ '.' :: (if fraction.isEmpty then ['0'] else fraction)

/-- One digit, the rest behind a point, and the exponent. -/
def scientific (ds : List Char) (tens : Int) : List Char :=
  let mantissa := match ds with
    | [] => ['0']
    | [d] => [d]
    | d :: rest => d :: '.' :: rest
  let mark := if tens < 0 then ['e', '-'] else ['e', '+']
  mantissa ++ mark ++ writePadded 2 tens.natAbs

/-- The written form of a decimal number. -/
def write (x : Decimal) : List Char :=
  let ds := writeNat x.digits
  let tens := x.exponent + ds.length - 1
  let body :=
    if x.digits = 0 then ['0', '.', '0']
    else if -4 ≤ tens ∧ tens < 16 then
      if x.exponent < 0 then pointed ds x.exponent.natAbs
      else pointed (ds ++ List.replicate x.exponent.toNat '0') 0
    else scientific ds tens
  if x.negative then '-' :: body else body

end Decimal

end BatchAdmin
