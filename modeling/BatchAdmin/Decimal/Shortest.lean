/-
The shortest decimal that reads back as a given binary number.

A finite double is `m · 2^q` exactly. The reals that round to it form
an interval around it: half a step to either side, a quarter below when
the step is smaller there, the ends included exactly when `m` is even
(ties go to the even neighbour). `shortest` looks for a point of that
interval on ever finer decimal grids, one digit, two digits, up to
seventeen; the first grid with a point in the interval wins, and of two
points the nearer. Every comparison is between whole numbers, so there
is no rounding in the search.

The neighbours of the value itself are enough to try on each grid: if
any point of a grid lies in the interval, so does the grid point just
below or just above the value.
-/
import BatchAdmin.Decimal.Basic

namespace BatchAdmin.Decimal

-- ========================================================== the interval

/-- A positive binary number and its rounding interval, all over one
denominator. -/
structure Span where
  /-- Numerator of the lower end. -/
  low : Nat
  /-- Numerator of the number itself. -/
  mid : Nat
  /-- Numerator of the upper end. -/
  high : Nat
  /-- The common denominator. -/
  den : Nat
  /-- The ends belong to the interval. -/
  closed : Bool

/-- The interval of `m · 2^q`; `narrow` when the number below is only
half a step away. -/
def Span.of (m : Nat) (q : Int) (narrow : Bool) : Span :=
  let up := Nat.pow 2 q.toNat
  { low := (4 * m - if narrow then 1 else 2) * up
    mid := 4 * m * up
    high := (4 * m + 2) * up
    den := 4 * Nat.pow 2 (-q).toNat
    closed := m % 2 == 0 }

/-- `c · 10^t` lies in the interval. -/
def Span.holds (s : Span) (c : Nat) (t : Int) : Bool :=
  let x := c * Nat.pow 10 t.toNat * s.den
  let scale := Nat.pow 10 (-t).toNat
  if s.closed then s.low * scale ≤ x && x ≤ s.high * scale
  else s.low * scale < x && x < s.high * scale

-- ============================================================ the search

/-- The least number of places `z` with `10^z · n ≥ d`. -/
def placesBelow : Nat → Nat → Nat → Nat
  | 0, _, _ => 0
  | fuel + 1, n, d => if d ≤ n then 0 else placesBelow fuel (10 * n) d + 1

/-- The power of ten just above the number: `10^(t-1) ≤ x < 10^t`. -/
def magnitude (s : Span) : Int :=
  if s.den ≤ s.mid then (Text.writeNat (s.mid / s.den)).length
  else 1 - (placesBelow 400 s.mid s.den : Int)

/-- The point of the interval on the grid of `10^t` nearest to the
number, if there is one. -/
def Span.nearest (s : Span) (t : Int) : Option Nat :=
  let num := s.mid * Nat.pow 10 (-t).toNat
  let den := s.den * Nat.pow 10 t.toNat
  let below := num / den
  let above := below + 1
  match s.holds below t, s.holds above t with
  | true, true =>
      if 2 * (num % den) ≤ den then some below else some above
  | true, false => some below
  | false, true => some above
  | false, false => none

/-- Ever finer grids, `fuel` of them. -/
def Span.search (s : Span) (t : Int) : Nat → Nat × Int
  | 0 => (s.mid / s.den, 0)
  | fuel + 1 =>
      match s.nearest t with
      | some c => (c, t)
      | none => s.search (t - 1) fuel

/-- Digits without zeros at their end. -/
def stripped : Nat → Nat → Int → Nat × Int
  | 0, c, t => (c, t)
  | fuel + 1, c, t =>
      if c % 10 == 0 && c != 0 then stripped fuel (c / 10) (t + 1)
      else (c, t)

/-- The fewest digits that read back as `m · 2^q`. -/
def shortestOf (m : Nat) (q : Int) (narrow : Bool) : Nat × Int :=
  if m = 0 then (0, 0)
  else
    let s := Span.of m q narrow
    let (c, t) := s.search (magnitude s - 1) 18
    stripped 20 c t

-- ======================================================= binary numbers

/-- Significand and exponent of a finite double: its size is
`m · 2^q`. -/
def parts (x : Float) : Nat × Int :=
  let bits : Nat := x.toBits.toNat
  let fraction : Nat := bits % Nat.pow 2 52
  let biased : Nat := bits / Nat.pow 2 52 % Nat.pow 2 11
  if biased = 0 then (fraction, -1074)
  else (Nat.pow 2 52 + fraction, (biased : Int) - 1075)

/-- The shortest decimal that reads back as `x`. -/
def shortest (x : Float) : Decimal :=
  let (m, q) := parts x
  let narrow := m == Nat.pow 2 52 && q > -1074
  let (c, t) := shortestOf m q narrow
  { negative := x.toBits.toNat ≥ Nat.pow 2 63, digits := c, exponent := t }

end BatchAdmin.Decimal
