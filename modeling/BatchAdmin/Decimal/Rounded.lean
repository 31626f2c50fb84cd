/-
Rounding a quotient to a whole number.

`roundEven` takes the nearest whole number and sends a tie to the even
neighbour. It is how means are shown in messages: the binary number is
first written as the exact quotient it is, so that a tie is a tie of
the number itself and not of some decimal form of it.
-/
import BatchAdmin.Decimal.Shortest

namespace BatchAdmin.Decimal

/-- The whole number nearest to `n / d`, ties to even. -/
def roundEven (n d : Nat) : Nat :=
  let below := n / d
  let twice := 2 * (n % d)
  if twice < d then below
  else if d < twice then below + 1
  else if below % 2 = 0 then below else below + 1

/-- A non-negative double as the nearest whole number, ties to even. -/
def nearestWhole (x : Float) : Nat :=
  let (m, q) := parts x
  roundEven (m * Nat.pow 2 q.toNat) (Nat.pow 2 (-q).toNat)

end BatchAdmin.Decimal
