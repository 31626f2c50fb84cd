/-
Percent escapes and form fields.

Two written forms of a text share one table of kept characters (ASCII
letters and digits and the four of `isKept`):

- a form field writes a blank as `+` and any other octet outside the
  table as `%XX`;
- a path segment does the same, except that a blank is `%20`, because a
  path keeps `+` for itself.

Reading a path undoes escapes only; reading a form turns `+` into a
blank first and undoes escapes afterwards, so an escaped plus survives.
An escape that is not two hexadecimal digits stands for itself.
-/
import BatchAdmin.Text.Octets
import BatchAdmin.Text.Cut
import BatchAdmin.Text.Numeral

namespace BatchAdmin.Text

-- ============================================================== the table

/-- The octets written as themselves in a form. -/
def isKept (b : Octet) : Bool :=
  let c := Char.ofNat b.toNat
  c.isAlphanum || c == '*' || c == '-' || c == '.' || c == '_'

/-- The escape of one octet. -/
def escape (b : Octet) : List Char :=
  ['%', hexDigit (b.toNat / 16), hexDigit (b.toNat % 16)]

-- ================================================================ writing

/-- One octet of a form field. -/
def formOctet (b : Octet) : List Char :=
  if b == 0x20 then ['+']
  else if isKept b then [Char.ofNat b.toNat]
  else escape b

/-- A text as a form writes it. -/
def formField (s : List Char) : List Char :=
  (octets s).flatMap formOctet

/-- One octet of a path segment. -/
def segmentOctet (b : Octet) : List Char :=
  if isKept b then [Char.ofNat b.toNat] else escape b

/-- A text as one segment of a path. -/
def pathSegment (s : List Char) : List Char :=
  (octets s).flatMap segmentOctet

/-- A list of named values as a form writes it. -/
def formQuery (fields : List (List Char × List Char)) : List Char :=
  joined ['&'] (fields.map fun (k, v) => formField k ++ '=' :: formField v)

-- ================================================================ reading

/-- The value of an octet as a hexadecimal digit. -/
def octetHex (b : Octet) : Option Nat :=
  hexValue (Char.ofNat b.toNat)

/-- The octets with every escape undone. -/
def unescape : List Octet → List Octet
  | [] => []
  | [b] => [b]
  | [b, c] => [b, c]
  | b :: h :: l :: rest =>
      if b == 0x25 then
        match octetHex h, octetHex l with
        | some x, some y => UInt8.ofNat (16 * x + y) :: unescape rest
        | _, _ => b :: unescape (h :: l :: rest)
      else b :: unescape (h :: l :: rest)

/-- The text a path segment stands for, if its octets are a text. -/
def readSegment (s : List Char) : Option (List Char) :=
  chars? (unescape (octets s))

/-- The text a form field stands for. -/
def readField (s : List Char) : List Char :=
  charsLossy
    (unescape ((octets s).map fun b => if b == 0x2B then 0x20 else b))

/-- The named values of a form; a field without `=` has an empty value
and empty fields are left out. -/
def readForm (s : List Char) : List (List Char × List Char) :=
  ((pieces (· == '&') s).filter fun f => !f.isEmpty).map fun f =>
    match cut '=' f with
    | some (k, v) => (readField k, readField v)
    | none => (readField f, [])

end BatchAdmin.Text
