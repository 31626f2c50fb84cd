/-
Texts in units of two octets.

A unit is a character or half of one: the characters beyond the first
65536 take a high and a low surrogate in this order. A surrogate without
its other half is no character, and neither is an octet that is left
over; together at the end they make one fault.
-/
import BatchAdmin.Text.Octets

namespace BatchAdmin.Text.Utf16

/-- The unit of two octets. -/
def unit (bigEndian : Bool) (a b : Octet) : Nat :=
  if bigEndian then 256 * a.toNat + b.toNat
  else 256 * b.toNat + a.toNat

/-- The units of octets, and whether one is left over. -/
def units (bigEndian : Bool) : List Octet → List Nat × Bool
  | [] => ([], false)
  | [_] => ([], true)
  | a :: b :: rest =>
      let (us, left) := units bigEndian rest
      (unit bigEndian a b :: us, left)

/-- A high surrogate. -/
def isHigh (u : Nat) : Bool := 0xD800 ≤ u && u < 0xDC00

/-- A low surrogate. -/
def isLow (u : Nat) : Bool := 0xDC00 ≤ u && u < 0xE000

/-- The character of two surrogates. -/
def joinedChar (high low : Nat) : Char :=
  Char.ofNat (0x10000 + (high - 0xD800) * 0x400 + (low - 0xDC00))

/-- The character of a unit by itself. -/
def unitChar (u : Nat) : Char :=
  if isHigh u || isLow u then replacement else Char.ofNat u

/-- The text of units; `left` says that an octet follows them. -/
def charsOf (left : Bool) : List Nat → List Char
  | [] => if left then [replacement] else []
  | [u] =>
      if left && !isHigh u then [unitChar u, replacement]
      else [unitChar u]
  | u :: v :: more =>
      if isHigh u && isLow v then joinedChar u v :: charsOf left more
      else unitChar u :: charsOf left (v :: more)

/-- The text of octets. -/
def decode (bigEndian : Bool) (bs : List Octet) : List Char :=
  let (us, left) := units bigEndian bs
  charsOf left us

end BatchAdmin.Text.Utf16
