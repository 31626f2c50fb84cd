/-
Texts as octets: UTF-8 in both directions.

`octets` writes a text, `chars?` reads one back and refuses anything
that is not UTF-8, and `charsLossy` reads whatever it is given, putting
one replacement character for each maximal part that cannot belong to a
text. Reading is exact wherever it is possible: on the octets of a text
all three agree (`charsLossy` looks for `chars?` first).
-/
namespace BatchAdmin.Text

/-- Eight bits, the unit in which files and requests are carried. -/
abbrev Octet := UInt8

-- ================================================================ writing

/-- The UTF-8 form of a text. -/
def octets (s : List Char) : List Octet :=
  s.flatMap String.utf8EncodeChar

/-- The UTF-8 form of a string. -/
def octetsOf (s : String) : List Octet :=
  octets s.toList

-- ================================================================ reading

/-- The text whose UTF-8 form this is, if it is one. -/
def chars? (bs : List Octet) : Option (List Char) :=
  (String.fromUTF8? ⟨bs.toArray⟩).map String.toList

/-- The character put for octets that belong to no text. -/
def replacement : Char := Char.ofNat 0xFFFD

/-- How many octets a first octet promises and the bounds of the
second; none when no character starts so. -/
def promise (b : Octet) : Option (Nat × Nat × Nat) :=
  let n := b.toNat
  if 0xC2 ≤ n ∧ n ≤ 0xDF then some (2, 0x80, 0xBF)
  else if n = 0xE0 then some (3, 0xA0, 0xBF)
  else if 0xE1 ≤ n ∧ n ≤ 0xEC then some (3, 0x80, 0xBF)
  else if n = 0xED then some (3, 0x80, 0x9F)
  else if 0xEE ≤ n ∧ n ≤ 0xEF then some (3, 0x80, 0xBF)
  else if n = 0xF0 then some (4, 0x90, 0xBF)
  else if 0xF1 ≤ n ∧ n ≤ 0xF3 then some (4, 0x80, 0xBF)
  else if n = 0xF4 then some (4, 0x80, 0x8F)
  else none

/-- The longest run of continuation octets, at most `owed` of them, the
first one within its own bounds. -/
def tails (low high : Nat) : Nat → List Octet → List Octet × Nat
  | 0, _ => ([], 0)
  | owed + 1, b :: rest =>
      if low ≤ b.toNat ∧ b.toNat ≤ high then
        let (taken, still) := tails 0x80 0xBF owed rest
        (b :: taken, still)
      else ([], owed + 1)
  | owed + 1, [] => ([], owed + 1)

/-- The number that the octets of one character spell. -/
def spelled (first : Octet) (rest : List Octet) : Nat :=
  let head := match rest.length with
    | 1 => first.toNat % 0x20
    | 2 => first.toNat % 0x10
    | _ => first.toNat % 0x08
  rest.foldl (fun n b => 64 * n + b.toNat % 0x40) head

/-- The text with one replacement character for each maximal part that
no text continues; `fuel` bounds the octets looked at. -/
def patched : Nat → List Octet → List Char
  | 0, _ => []
  | _, [] => []
  | fuel + 1, b :: rest =>
      if b.toNat < 0x80 then Char.ofNat b.toNat :: patched fuel rest
      else
        match promise b with
        | none => replacement :: patched fuel rest
        | some (size, low, high) =>
            let (taken, still) := tails low high (size - 1) rest
            let c := if still = 0 then Char.ofNat (spelled b taken)
              else replacement
            c :: patched fuel (rest.drop taken.length)

/-- The text of these octets, with replacement characters where they
are no text. -/
def charsLossy (bs : List Octet) : List Char :=
  match chars? bs with
  | some s => s
  | none => patched bs.length bs

end BatchAdmin.Text
