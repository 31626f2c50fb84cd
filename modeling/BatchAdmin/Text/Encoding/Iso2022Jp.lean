/-
Japanese text in seven bits.

Escapes change what the octets behind them stand for: ASCII, the Roman
letters with a yen sign and an overline, half-width syllables, or pairs
of the Japanese table. An escape right behind another is a fault, since
nothing was written between them.
-/
import BatchAdmin.Text.Encoding.Front
import BatchAdmin.Text.Encoding.Jis0208

namespace BatchAdmin.Text.Iso2022Jp

/-- What octets stand for. -/
inductive Mode where
  | ascii
  | roman
  | katakana
  | pairs
  deriving DecidableEq, Repr

/-- The mode that an escape asks for and what follows it, its first
octet already taken. -/
def escape? : List Octet → Option (Mode × List Octet)
  | 0x28 :: 0x42 :: rest => some (.ascii, rest)
  | 0x28 :: 0x4A :: rest => some (.roman, rest)
  | 0x28 :: 0x49 :: rest => some (.katakana, rest)
  | 0x24 :: 0x40 :: rest => some (.pairs, rest)
  | 0x24 :: 0x42 :: rest => some (.pairs, rest)
  | _ => none

/-- The character of an octet outside pairs. -/
def single? (mode : Mode) (b : Octet) : Option Char :=
  let shift := b.toNat == 0x0E || b.toNat == 0x0F
  match mode with
  | .ascii => if shift then none else asciiChar? b
  | .roman =>
      if shift then none
      else if b.toNat = 0x5C then some (Char.ofNat 0xA5)
      else if b.toNat = 0x7E then some (Char.ofNat 0x203E)
      else asciiChar? b
  | .katakana =>
      if within 0x21 0x5F b then
        some (Char.ofNat (0xFF61 - 0x21 + b.toNat))
      else none
  | .pairs => none

/-- An octet of a pair. -/
def isHalf (b : Octet) : Bool := within 0x21 0x7E b

/-- The front of octets in the mode of pairs. -/
def pairFront (b : Octet) (rest : List Octet) : Front :=
  match rest with
  | [] => .fault 1
  | t :: _ =>
      if !isHalf b || t.toNat == 0x1B then .fault 1
      else if isHalf t then
        let place := 94 * (b.toNat - 0x21) + (t.toNat - 0x21)
        .ofChar? (jis0208.get? place) 2
      else .fault 2

/-- The front of octets in a mode, escapes aside. -/
def front (mode : Mode) (b : Octet) (rest : List Octet) : Front :=
  match mode with
  | .pairs => pairFront b rest
  | mode => .ofChar? (single? mode b) 1

/-- The text of octets in a mode; `escaped` says that an escape stands
right in front of them. `fuel` bounds their number. -/
def run : Nat → Mode → Bool → List Octet → List Char
  | 0, _, _, _ => []
  | _, _, _, [] => []
  | fuel + 1, mode, escaped, b :: rest =>
      if b.toNat = 0x1B then
        match escape? rest with
        | some (mode, rest) =>
            (if escaped then [replacement] else [])
              ++ run fuel mode true rest
        | none => replacement :: run fuel mode false rest
      else
        let f := front mode b rest
        f.chars ++ run fuel mode false (rest.drop (f.size - 1))

/-- The text of octets. -/
def decode (bs : List Octet) : List Char :=
  run bs.length .ascii false bs

end BatchAdmin.Text.Iso2022Jp
