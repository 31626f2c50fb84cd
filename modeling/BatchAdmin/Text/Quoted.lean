/-
Quoted texts of settings, wherever those stand.

Between double quotes a backslash begins an escape: one of seven letters
and signs, or the number of a character in four or eight hexadecimal
digits. Control characters stand there only in escaped form; the tab is
the one exception. A text that breaks off or has an escape of another
kind is no quoted text at all.
-/
import BatchAdmin.Text.Numeral

namespace BatchAdmin.Text

-- =============================================================== characters

/-- A character that may stand in a quoted text or a comment as it is. -/
def isPlain (c : Char) : Bool :=
  c == '\t' || (0x20 ≤ c.toNat && c.toNat != 0x7F)

-- ================================================================== escapes

/-- A number of exactly `size` hexadecimal digits. -/
def hexRun (size : Nat) (s : List Char) : Option (Nat × List Char) :=
  let ds := s.take size
  if ds.length = size ∧ ds.all fun c => (hexValue c).isSome then
    some (ds.foldl (fun n c => 16 * n + (hexValue c).getD 0) 0, s.drop size)
  else none

/-- The character with this number, if there is one. -/
def scalar? (n : Nat) : Option Char :=
  if n < 0xD800 ∨ (0xE000 ≤ n ∧ n < 0x110000) then some (Char.ofNat n)
  else none

/-- The character of an escape, the backslash already taken. -/
def escaped (s : List Char) : Option (Char × List Char) :=
  match s with
  | 'b' :: rest => some ('\x08', rest)
  | 't' :: rest => some ('\t', rest)
  | 'n' :: rest => some ('\n', rest)
  | 'f' :: rest => some ('\x0c', rest)
  | 'r' :: rest => some ('\r', rest)
  | '"' :: rest => some ('"', rest)
  | '\\' :: rest => some ('\\', rest)
  | 'u' :: rest => do
      let (n, rest) ← hexRun 4 rest
      return (← scalar? n, rest)
  | 'U' :: rest => do
      let (n, rest) ← hexRun 8 rest
      return (← scalar? n, rest)
  | _ => none

-- ==================================================================== texts

/-- A text up to its closing quote, what was read of it in `acc` the
other way round. -/
def quotedBody : Nat → List Char → List Char →
    Option (List Char × List Char)
  | 0, _, _ => none
  | fuel + 1, acc, s =>
      match s with
      | '"' :: rest => some (acc.reverse, rest)
      | '\\' :: rest =>
          match escaped rest with
          | some (c, rest) => quotedBody fuel (c :: acc) rest
          | none => none
      | c :: rest =>
          if isPlain c then quotedBody fuel (c :: acc) rest else none
      | [] => none

/-- A text up to its closing quote and what follows, the opening quote
already taken. -/
def quoted (s : List Char) : Option (List Char × List Char) :=
  quotedBody (s.length + 1) [] s

end BatchAdmin.Text
