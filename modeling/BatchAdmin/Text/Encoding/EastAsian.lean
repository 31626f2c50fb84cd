/-
The encodings of East Asia: one octet for the characters of ASCII and
two, seldom three or four, for the characters of a table.

Each encoding numbers the places of its table by the octets that reach
them. The Japanese ones share a table; EUC-JP has a second one behind
the octet 8F. GB 18030 has the characters that are in no table in four
octets, in the order of their numbers.
-/
import BatchAdmin.Text.Encoding.Front
import BatchAdmin.Text.Encoding.Jis0208
import BatchAdmin.Text.Encoding.Jis0212
import BatchAdmin.Text.Encoding.Korean
import BatchAdmin.Text.Encoding.Gb18030
import BatchAdmin.Text.Encoding.Big5

namespace BatchAdmin.Text

-- ================================================================= Japanese

/-- The half-width syllable of an octet. -/
def halfWidth? (b : Octet) : Option Char :=
  if within 0xA1 0xDF b then some (Char.ofNat (0xFF61 - 0xA1 + b.toNat))
  else none

/-- The place of a Shift JIS pair. -/
def shiftJisPlace? (lead trail : Octet) : Option Nat :=
  let row := lead.toNat - if lead.toNat < 0xA0 then 0x81 else 0xC1
  let column := trail.toNat - if trail.toNat < 0x7F then 0x40 else 0x41
  if within 0x40 0x7E trail || within 0x80 0xFC trail then
    some (188 * row + column)
  else none

/-- The character of a place of Shift JIS; some places are for private
use. -/
def shiftJisChar? (place : Nat) : Option Char :=
  if 8836 ≤ place ∧ place ≤ 10715 then
    some (Char.ofNat (0xE000 + (place - 8836)))
  else jis0208.get? place

/-- Shift JIS. -/
def shiftJis : Pairs where
  single b :=
    if b.toNat = 0x80 then some (Char.ofNat 0x80)
    else (asciiChar? b).or (halfWidth? b)
  isLead b := within 0x81 0x9F b || within 0xE0 0xFC b
  pair lead trail :=
    ((shiftJisPlace? lead trail).bind shiftJisChar?).map ([·])

/-- The place of two octets in a table of 94 rows and columns. -/
def squarePlace? (lead trail : Octet) : Option Nat :=
  if within 0xA1 0xFE lead && within 0xA1 0xFE trail then
    some (94 * (lead.toNat - 0xA1) + (trail.toNat - 0xA1))
  else none

/-- EUC-JP without its second table. -/
def eucJpPairs : Pairs where
  single := asciiChar?
  isLead b := b.toNat == 0x8E || b.toNat == 0x8F || within 0xA1 0xFE b
  pair lead trail :=
    if lead.toNat = 0x8E then (halfWidth? trail).map ([·])
    else ((squarePlace? lead trail).bind jis0208.get?).map ([·])

/-- The front of EUC-JP. -/
def eucJpFront (b : Octet) (rest : List Octet) : Front :=
  match b.toNat, rest with
  | 0x8F, [lead] =>
      if within 0xA1 0xFE lead then .fault 2 else Pairs.faultOf lead
  | 0x8F, lead :: trail :: _ =>
      if within 0xA1 0xFE lead then
        match (squarePlace? lead trail).bind jis0212.get? with
        | some c => .char c 3
        | none => .fault (if isAscii trail then 2 else 3)
      else Pairs.faultOf lead
  | _, _ => eucJpPairs.front b rest

-- =================================================================== Korean

/-- The place of two octets in the Korean table. -/
def koreanPlace? (lead trail : Octet) : Option Nat :=
  if within 0x41 0xFE trail then
    some (190 * (lead.toNat - 0x81) + (trail.toNat - 0x41))
  else none

/-- EUC-KR with its extension. -/
def eucKr : Pairs where
  single := asciiChar?
  isLead := within 0x81 0xFE
  pair lead trail :=
    ((koreanPlace? lead trail).bind korean.get?).map ([·])

-- ================================================================== Chinese

/-- The place of a Big5 pair. -/
def big5Place? (lead trail : Octet) : Option Nat :=
  let column := trail.toNat - if trail.toNat < 0x7F then 0x40 else 0x62
  if within 0x40 0x7E trail || within 0xA1 0xFE trail then
    some (157 * (lead.toNat - 0x81) + column)
  else none

/-- The text of a place of Big5; four of them have a letter with two
marks. -/
def big5Text? (place : Nat) : Option (List Char) :=
  match place with
  | 1133 => some ['\u00ca', '\u0304']
  | 1135 => some ['\u00ca', '\u030c']
  | 1164 => some ['\u00ea', '\u0304']
  | 1166 => some ['\u00ea', '\u030c']
  | _ => (big5Table.get? place).map ([·])

/-- Big5 with the characters of Hong Kong. -/
def big5 : Pairs where
  single := asciiChar?
  isLead := within 0x81 0xFE
  pair lead trail := (big5Place? lead trail).bind big5Text?

/-- The place of a pair of GB 18030. -/
def gb18030Place? (lead trail : Octet) : Option Nat :=
  let column := trail.toNat - if trail.toNat < 0x7F then 0x40 else 0x41
  if within 0x40 0x7E trail || within 0x80 0xFE trail then
    some (190 * (lead.toNat - 0x81) + column)
  else none

/-- GB 18030 without its four octets. -/
def gb18030Pairs : Pairs where
  single b :=
    if b.toNat = 0x80 then some (Char.ofNat 0x20AC) else asciiChar? b
  isLead := within 0x81 0xFE
  pair lead trail :=
    ((gb18030Place? lead trail).bind gb18030Table.get?).map ([·])

/-- A digit of ASCII. -/
def isDigitOctet (b : Octet) : Bool := within 0x30 0x39 b

/-- The place of four octets of GB 18030. -/
def farPlace (a b c d : Octet) : Nat :=
  12600 * (a.toNat - 0x81) + 1260 * (b.toNat - 0x30)
    + 10 * (c.toNat - 0x81) + (d.toNat - 0x30)

/-- The character of a place of four octets. -/
def farChar? (place : Nat) : Option Char :=
  if (39419 < place ∧ place < 189000) ∨ 1237575 < place then none
  else if place = 7457 then some (Char.ofNat 0xE7C7)
  else
    (gb18030Ranges.reverse.find? fun r => r.1 ≤ place).map
      fun r => Char.ofNat (r.2 + (place - r.1))

/-- The front of GB 18030. -/
def gb18030Front (a : Octet) (rest : List Octet) : Front :=
  match rest with
  | b :: more =>
      if within 0x81 0xFE a && isDigitOctet b then
        match more with
        | [] => .fault 2
        | [c] => .fault (if within 0x81 0xFE c then 3 else 1)
        | c :: d :: _ =>
            if within 0x81 0xFE c && isDigitOctet d then
              .ofChar? (farChar? (farPlace a b c d)) 4
            else .fault 1
      else gb18030Pairs.front a rest
  | [] => gb18030Pairs.front a rest

end BatchAdmin.Text
