/-
Numbers in which averages are taken.

Means are taken in binary fractions when the gateway runs, because that
is what its answers show digit for digit, and can be taken in any other
numbers that count, add, multiply, divide and compare: the rules of the
statistics are written once, for all of them.
-/
namespace BatchAdmin

/-- Numbers that averages can be taken in. -/
class Quantity (α : Type) extends Add α, Mul α, Div α where
  /-- A count as a number. -/
  ofCount : Nat → α
  /-- One number is less than another. -/
  less : α → α → Bool

namespace Quantity

instance : Quantity Float where
  ofCount n := n.toUInt64.toFloat
  less a b := decide (a < b)

/-- The mean of `n + 1` values, from the mean of the first `n` and the
last. -/
def meanWith {α : Type} [Quantity α] (mean : α) (n : Nat) (value : Nat) :
    α :=
  (mean * ofCount n + ofCount value) / (ofCount n + ofCount 1)

/-- A number above zero. -/
def isPositive {α : Type} [Quantity α] (x : α) : Bool :=
  less (ofCount 0) x

/-- The lesser of two numbers. -/
def lesser {α : Type} [Quantity α] (x y : α) : α :=
  if less y x then y else x

end Quantity

end BatchAdmin
