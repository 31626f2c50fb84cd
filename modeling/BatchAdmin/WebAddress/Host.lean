/-
Hosts of web addresses.

A host is a name or a number. A name has its escapes undone and its
letters made small, and each of its labels is written in ASCII; a name
whose last label is a number is an address of four numbers, which may
come in fewer parts and in other bases. An address of eight groups
stands in brackets. Each host has one written form.
-/
import BatchAdmin.Text.Ip
import BatchAdmin.Text.Percent
import BatchAdmin.Text.Punycode

namespace BatchAdmin.WebAddress

open Text

-- =================================================================== numbers

/-- Digits of a base. -/
def digitsIn? (base : Nat) (s : List Char) : Option Nat :=
  let isDigit (c : Char) : Bool := (hexValue c).any (· < base)
  if s.all isDigit then
    some (s.foldl (fun n c => base * n + (hexValue c).getD 0) 0)
  else none

/-- One part of an address of four numbers: in base sixteen behind `0x`,
in base eight behind another zero, and in base ten otherwise. -/
def part? (s : List Char) : Option Nat :=
  match s with
  | [] => none
  | '0' :: 'x' :: rest | '0' :: 'X' :: rest => digitsIn? 16 rest
  | ['0'] => some 0
  | '0' :: rest => digitsIn? 8 rest
  | s => digitsIn? 10 s

/-- The labels of a name, without the empty one behind a last dot. -/
def labels (name : List Char) : List (List Char) :=
  let ls := pieces (· == '.') name
  if ls.getLast? = some [] then ls.dropLast else ls

/-- The last label of a name is a number. -/
def endsInNumber (name : List Char) : Bool :=
  match (labels name).getLast? with
  | some l =>
      (!l.isEmpty && l.all Char.isDigit) || (part? l).isSome
  | none => false

/-- The four numbers that a number stands for. -/
def fourOf (n : Nat) : List Nat :=
  [n / 16777216, n / 65536 % 256, n / 256 % 256, n % 256]

/-- The number that parts make: each but the last is one of the four
numbers, and the last is all the others. -/
def combined? (parts : List Nat) : Option Nat := do
  let last ← parts.getLast?
  let front := parts.dropLast
  let room := Nat.pow 256 (4 - front.length)
  if 3 < front.length ∨ room ≤ last ∨ front.any (255 < ·) then none
  else
    let scale := front.foldl (fun n p => 256 * n + p) 0
    some (scale * room + last)

/-- An address of four numbers. -/
def four? (name : List Char) : Option (List Char) := do
  let parts ← (labels name).mapM part?
  return Ip.writeFour (fourOf (← combined? parts))

/-- An address of eight groups, in brackets. -/
def eight? (s : List Char) : Option (List Char) := do
  match ← Ip.eightGroups s with
  | (groups, [']']) => some ('[' :: Ip.writeEight groups ++ [']'])
  | _ => none

-- ===================================================================== names

/-- A character that no name has. -/
def isForbidden (c : Char) : Bool :=
  c.toNat ≤ 0x20 || c.toNat == 0x7F || c == replacement
    || "%#/:<>?@[\\]^|".toList.contains c

/-- Capitals that stand next to their small letters. -/
def isPairedCapital (n : Nat) : Bool :=
  let even := n % 2 == 0
  (0x100 ≤ n && n ≤ 0x137 && n != 0x130 && even)
    || (0x139 ≤ n && n ≤ 0x148 && !even)
    || (0x14A ≤ n && n ≤ 0x177 && even)
    || (0x179 ≤ n && n ≤ 0x17E && !even)
    || (0x460 ≤ n && n ≤ 0x481 && even)
    || (0x48A ≤ n && n ≤ 0x4BF && even)

/-- How far a capital of Latin, Greek or Cyrillic is from its small
letter. -/
def capitalShift (n : Nat) : Nat :=
  if 0x41 ≤ n ∧ n ≤ 0x5A then 0x20
  else if 0xC0 ≤ n ∧ n ≤ 0xDE ∧ n ≠ 0xD7 then 0x20
  else if 0x391 ≤ n ∧ n ≤ 0x3AB ∧ n ≠ 0x3A2 then 0x20
  else if 0x410 ≤ n ∧ n ≤ 0x42F then 0x20
  else if 0x400 ≤ n ∧ n ≤ 0x40F then 0x50
  else if n = 0x386 then 0x26
  else if 0x388 ≤ n ∧ n ≤ 0x38A then 0x25
  else if n = 0x38C then 0x40
  else if n = 0x38E ∨ n = 0x38F then 0x3F
  else if isPairedCapital n then 1
  else 0

/-- A character of full width as the character of ASCII that it
shows. -/
def narrowed (n : Nat) : Nat :=
  if 0xFF01 ≤ n ∧ n ≤ 0xFF5E then n - 0xFEE0
  else if n = 0x3002 ∨ n = 0xFF61 then 0x2E
  else n

/-- A character that a name may show but does not mean. -/
def isIgnored (n : Nat) : Bool :=
  n == 0xAD || n == 0x200B || n == 0x2060 || n == 0xFEFF

/-- A name as it is compared. -/
def folded (name : List Char) : List Char :=
  (name.filter fun c => !isIgnored c.toNat).map fun c =>
    let n := narrowed c.toNat
    Char.ofNat (n + capitalShift n)

/-- A label in ASCII. -/
def asciiLabel (label : List Char) : List Char :=
  if label.all fun c => c.toNat < 0x80 then label
  else "xn--".toList ++ Punycode.encode label

/-- A name in ASCII. -/
def name? (s : List Char) : Option (List Char) := do
  let name := folded (← chars? (unescape (octets s)))
  if name.isEmpty ∨ name.any isForbidden then none
  else some (joined ['.'] ((pieces (· == '.') name).map asciiLabel))

-- ===================================================================== hosts

/-- A host in its written form. -/
def host? (s : List Char) : Option (List Char) :=
  match s with
  | '[' :: rest => eight? rest
  | s => do
      let name ← name? s
      if endsInNumber name then four? name else some name

end BatchAdmin.WebAddress
