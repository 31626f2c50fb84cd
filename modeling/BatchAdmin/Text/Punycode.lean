/-
Labels in ASCII: Punycode.

The characters of ASCII stand in front in their order, and behind a
hyphen the others are inserted one by one, in the order of their
numbers. What is written for each is how far it is from the one before,
counted over the numbers left out and the places in the label, in digits
of base 36 whose weights adapt to the distances seen.
-/
import BatchAdmin.Text.Numeral

namespace BatchAdmin.Text.Punycode

-- =================================================================== digits

/-- A digit of base 36: the letters, then the numerals. -/
def digit (n : Nat) : Char :=
  if n < 26 then Char.ofNat (0x61 + n) else Char.ofNat (0x30 + (n - 26))

/-- Where the digit of a place ends a number. -/
def threshold (place bias : Nat) : Nat :=
  min 26 (max 1 (place - bias))

/-- A distance in digits, the lowest first; `fuel` bounds their
number. -/
def digitsOf (bias : Nat) : Nat → Nat → Nat → List Char
  | 0, _, _ => []
  | fuel + 1, place, n =>
      let t := threshold place bias
      if n < t then [digit n]
      else
        digit (t + (n - t) % (36 - t))
          :: digitsOf bias fuel (place + 36) ((n - t) / (36 - t))

/-- How often a distance can be divided, and what is left of it. -/
def halvings : Nat → Nat → Nat × Nat
  | 0, n => (0, n)
  | fuel + 1, n =>
      if n ≤ 455 then (0, n)
      else
        let (k, left) := halvings fuel (n / 35)
        (k + 1, left)

/-- The bias after a distance, when `count` characters stand in the
label. -/
def adapted (distance count : Nat) (first : Bool) : Nat :=
  let damped := distance / if first then 700 else 2
  let (k, left) := halvings distance (damped + damped / count)
  36 * k + 36 * left / (left + 38)

-- ================================================================= writing

/-- What has been written so far. -/
structure Progress where
  written : List Char
  bias : Nat
  /-- How many characters stand in the label. -/
  placed : Nat
  /-- How far it is from the last character that was inserted. -/
  distance : Nat

/-- Passes a character of the label on the way round for the character
with the number `n`, and inserts it where it is that. -/
def visit (basic n : Nat) (p : Progress) (c : Char) : Progress :=
  if c.toNat < n then { p with distance := p.distance + 1 }
  else if c.toNat = n then
    { written := p.written ++ digitsOf p.bias (p.distance + 1) 36 p.distance
      bias := adapted p.distance (p.placed + 1) (p.placed == basic)
      placed := p.placed + 1
      distance := 0 }
  else p

/-- Goes round the label for each of the numbers in turn; all numbers
below `n` have had theirs. -/
def rounds (label : List Char) (basic : Nat) :
    Nat → List Nat → Progress → Progress
  | _, [], p => p
  | n, next :: more, p =>
      let skipped := (next - n) * (p.placed + 1)
      let p := { p with distance := p.distance + skipped }
      let p := label.foldl (visit basic next) p
      rounds label basic (next + 1) more
        { p with distance := p.distance + 1 }

/-- A label in ASCII. -/
def encode (label : List Char) : List Char :=
  let basic := label.filter fun c => c.toNat < 0x80
  let others := (label.map Char.toNat).filter fun n => 0x80 ≤ n
  let numbers := (others.mergeSort fun a b => decide (a ≤ b)).eraseDups
  let size := basic.length
  let lead := if basic.isEmpty then [] else basic ++ ['-']
  (rounds label size 0x80 numbers ⟨lead, 72, size, 0⟩).written

end BatchAdmin.Text.Punycode
