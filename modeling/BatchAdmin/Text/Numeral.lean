/-
Numerals: whole numbers read from and written to texts.

A numeral is one or more ASCII digits, with a sign in front where a
signed number is asked for (`+` is allowed, and so are leading zeros).
Every width bounds what is read: a numeral outside the range of its
word is refused and never wrapped, because the caller would otherwise
act on a number nobody wrote.
-/
namespace BatchAdmin.Text

-- ================================================================= bounds

/-- The largest number of a 64-bit word. -/
def maxWord : Nat := 18446744073709551615

/-- The largest signed 64-bit number. -/
def maxSigned : Int := 9223372036854775807

/-- The smallest signed 64-bit number. -/
def minSigned : Int := -9223372036854775808

-- ================================================================ reading

/-- The value of a run of digits, most significant first. -/
def digitsValue (ds : List Char) : Nat :=
  ds.foldl (fun n c => 10 * n + (c.toNat - '0'.toNat)) 0

/-- A non-empty run of ASCII digits and nothing else. -/
def readDigits (s : List Char) : Option Nat :=
  if s.isEmpty || !s.all Char.isDigit then none
  else some (digitsValue s)

/-- Digits with an optional sign in front. -/
def readSigned (s : List Char) : Option Int :=
  match s with
  | '+' :: rest => (readDigits rest).map Int.ofNat
  | '-' :: rest => (readDigits rest).map fun n => -Int.ofNat n
  | rest => (readDigits rest).map Int.ofNat

/-- A number of a signed 64-bit word. -/
def readInt64 (s : List Char) : Option Int :=
  match readSigned s with
  | some n => if minSigned ≤ n ∧ n ≤ maxSigned then some n else none
  | none => none

/-- A number of an unsigned 64-bit word; a plus sign may stand in
front. -/
def readWord64 (s : List Char) : Option Nat :=
  let body := match s with
    | '+' :: rest => rest
    | rest => rest
  match readDigits body with
  | some n => if n ≤ maxWord then some n else none
  | none => none

/-- A truth value, in lower case only. -/
def readBool (s : List Char) : Option Bool :=
  if s = "true".toList then some true
  else if s = "false".toList then some false
  else none

-- ================================================================ writing

/-- The decimal digits of a number. -/
def writeNat (n : Nat) : List Char :=
  Nat.toDigits 10 n

/-- The decimal digits of a number, a minus sign first if negative. -/
def writeInt (n : Int) : List Char :=
  if n < 0 then '-' :: writeNat n.natAbs else writeNat n.natAbs

/-- The decimal digits, with zeros in front up to `width`. -/
def writePadded (width n : Nat) : List Char :=
  let ds := writeNat n
  List.replicate (width - ds.length) '0' ++ ds

/-- A number as a string. -/
def intText (n : Int) : String :=
  String.ofList (writeInt n)

/-- A count as a string. -/
def natText (n : Nat) : String :=
  String.ofList (writeNat n)

/-- A hexadecimal digit, in capitals. -/
def hexDigit (n : Nat) : Char :=
  if n < 10 then Char.ofNat ('0'.toNat + n) else Char.ofNat ('A'.toNat + n - 10)

/-- The value of a hexadecimal digit of either case. -/
def hexValue (c : Char) : Option Nat :=
  if c.isDigit then some (c.toNat - '0'.toNat)
  else if 'a' ≤ c ∧ c ≤ 'f' then some (c.toNat - 'a'.toNat + 10)
  else if 'A' ≤ c ∧ c ≤ 'F' then some (c.toNat - 'A'.toNat + 10)
  else none

end BatchAdmin.Text
