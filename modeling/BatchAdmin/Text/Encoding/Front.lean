/-
Decoding from the front.

A decoder is told by what it makes of the front of some octets: which
characters, and of how many octets. What belongs to no character becomes
a replacement character; an octet of ASCII behind it is looked at again,
so that no fault can hide a slash or a line end.
-/
import BatchAdmin.Text.Octets

namespace BatchAdmin.Text

/-- What the front of some octets stands for. -/
structure Front where
  chars : List Char
  /-- How many octets that takes. -/
  size : Nat
  deriving DecidableEq, Repr

namespace Front

/-- One character. -/
def char (c : Char) (size : Nat) : Front := ⟨[c], size⟩

/-- No character. -/
def fault (size : Nat) : Front := char replacement size

/-- A character or none. -/
def ofChar? (c : Option Char) (size : Nat) : Front :=
  match c with
  | some c => char c size
  | none => fault size

end Front

/-- An octet of ASCII. -/
def isAscii (b : Octet) : Bool := b.toNat < 0x80

/-- An octet between two others, both included. -/
def within (low high : Nat) (b : Octet) : Bool :=
  low ≤ b.toNat && b.toNat ≤ high

/-- The text of these octets, front by front; `fuel` bounds their
number. -/
def decodeBy (front : Octet → List Octet → Front) :
    Nat → List Octet → List Char
  | 0, _ => []
  | _, [] => []
  | fuel + 1, b :: rest =>
      let f := front b rest
      f.chars ++ decodeBy front fuel (rest.drop (f.size - 1))

-- ==================================================================== pairs

/-- An encoding of characters in one octet or two. -/
structure Pairs where
  /-- The character of an octet by itself. -/
  single : Octet → Option Char
  /-- An octet that begins a pair. -/
  isLead : Octet → Bool
  /-- The text of a pair. -/
  pair : Octet → Octet → Option (List Char)

/-- What follows the fault of a pair: its second octet too, unless that
is one of ASCII. -/
def Pairs.faultOf (trail : Octet) : Front :=
  .fault (if isAscii trail then 1 else 2)

/-- The front in an encoding of one octet or two. -/
def Pairs.front (p : Pairs) (b : Octet) (rest : List Octet) : Front :=
  match p.single b, rest with
  | some c, _ => .char c 1
  | none, [] => .fault 1
  | none, trail :: _ =>
      if p.isLead b then
        match p.pair b trail with
        | some cs => ⟨cs, 2⟩
        | none => Pairs.faultOf trail
      else .fault 1

/-- An octet of ASCII as its character. -/
def asciiChar? (b : Octet) : Option Char :=
  if isAscii b then some (Char.ofNat b.toNat) else none

end BatchAdmin.Text
