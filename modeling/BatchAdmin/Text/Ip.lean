/-
IP addresses as text: four numbers, or eight groups.

Four numbers have dots between them. Eight groups of hexadecimal digits
have colons between them; one run of zero groups may be left out (`::`),
and the last two may be given as four numbers. Written, the longest run
of zero groups is left out, the first of several.
-/
import BatchAdmin.Text.Numeral
import BatchAdmin.Text.Cut

namespace BatchAdmin.Ip

open Text

-- ================================================================= reading

/-- A number at the front of at most `most` digits below `bound`;
`padded` allows zeros in front. -/
def number (hex : Bool) (most bound : Nat) (padded : Bool)
    (s : List Char) : Option (Nat × List Char) :=
  let isDigit (c : Char) : Bool :=
    if hex then (hexValue c).isSome else c.isDigit
  let base := if hex then 16 else 10
  let ds := s.takeWhile isDigit
  let n := ds.foldl (fun n c => base * n + (hexValue c).getD 0) 0
  if ds.isEmpty ∨ most < ds.length ∨ bound ≤ n then none
  else if !padded && ds.length > 1 && ds.head? == some '0' then none
  else some (n, s.dropWhile isDigit)

/-- One character at the front. -/
def sign (c : Char) : List Char → Option (List Char)
  | d :: rest => if d = c then some rest else none
  | [] => none

/-- Four numbers with dots between them. -/
def fourNumbers (s : List Char) : Option (List Nat × List Char) := do
  let (a, s) ← number false 3 256 false s
  let s ← sign '.' s
  let (b, s) ← number false 3 256 false s
  let s ← sign '.' s
  let (c, s) ← number false 3 256 false s
  let s ← sign '.' s
  let (d, s) ← number false 3 256 false s
  return ([a, b, c, d], s)

/-- Up to `room` groups with colons between them, and whether the last
two were written as four numbers. -/
def groups : Nat → Bool → List Char → List Nat × Bool × List Char
  | 0, _, s => ([], false, s)
  | room + 1, first, s =>
      match if first then some s else sign ':' s with
      | none => ([], false, s)
      | some t =>
          match if 0 < room then fourNumbers t else none with
          | some ([a, b, c, d], rest) =>
              ([256 * a + b, 256 * c + d], true, rest)
          | _ =>
              match number true 4 65536 true t with
              | none => ([], false, s)
              | some (g, rest) =>
                  let (gs, four, rest) := groups room false rest
                  (g :: gs, four, rest)

/-- Eight groups, of which `::` may leave some out. -/
def eightGroups (s : List Char) : Option (List Nat × List Char) :=
  let (head, four, rest) := groups 8 true s
  if head.length = 8 then some (head, rest)
  else if four then none
  else do
    let rest ← sign ':' rest
    let rest ← sign ':' rest
    let (tail, _, rest) := groups (8 - (head.length + 1)) true rest
    let zeros := List.replicate (8 - head.length - tail.length) 0
    return (head ++ zeros ++ tail, rest)

-- ================================================================= writing

/-- The digits of a group. -/
def hexText (n : Nat) : List Char :=
  Nat.toDigits 16 n

/-- Four numbers with dots between them. -/
def writeFour (numbers : List Nat) : List Char :=
  joined ['.'] (numbers.map writeNat)

/-- Groups with colons between them. -/
def writeGroups (groups : List Nat) : List Char :=
  joined [':'] (groups.map hexText)

/-- How many zero groups stand at the front. -/
def zerosAt (groups : List Nat) : Nat :=
  (groups.takeWhile (· == 0)).length

/-- Where the longest run of zero groups starts, and its length; the
first of several counts. -/
def longestZeros (groups : List Nat) : Nat × Nat :=
  (List.range groups.length).foldl
    (fun best start =>
      let run := zerosAt (groups.drop start)
      if best.2 < run then (start, run) else best)
    (0, 0)

/-- Eight groups, the longest run of zeros left out. -/
def writeEight (groups : List Nat) : List Char :=
  let (start, run) := longestZeros groups
  if 1 < run then
    writeGroups (groups.take start) ++ "::".toList
      ++ writeGroups (groups.drop (start + run))
  else writeGroups groups

end BatchAdmin.Ip
