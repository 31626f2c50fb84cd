/-
Settings from environment variables.

A variable whose name starts with `BATCHGATE_`, in any case and after
any blanks, is a setting; in the rest of its name two underscores, like a
dot, lead into a part of the settings. Its value is read as a truth value,
a number, a text in quotes, a list or an object where it has that form
from end to end, and as a plain text everywhere else.
-/
import BatchAdmin.Settings.Merge
import BatchAdmin.Text.Cut
import BatchAdmin.Text.Quoted
import BatchAdmin.Text.Blank

namespace BatchAdmin.Variables

open Text

-- =================================================================== values

/-- The blanks around values. -/
def isGap (c : Char) : Bool :=
  c == ' ' || c == '\t' || c == '\n' || c == '\x0c' || c == '\r'

/-- What follows the blanks. -/
def skipGap (s : List Char) : List Char := s.dropWhile isGap

/-- A character that ends a plain value. -/
def isMark (c : Char) : Bool :=
  c == ',' || c == '{' || c == '}' || c == '[' || c == ']'

/-- A character of a plain key. -/
def isBare (c : Char) : Bool :=
  c.isAlphanum || c == '_' || c == '-'

/-- A number with a point in it. -/
def fractional? (s : List Char) : Option Json := do
  let (negative, body) := match s with
    | '-' :: rest => (true, rest)
    | '+' :: rest => (false, rest)
    | rest => (false, rest)
  let front := body.span fun c => c != 'e' && c != 'E'
  let (mantissa, exponent) := match front with
    | (m, _ :: e) => (m, some e)
    | (m, []) => (m, none)
  let (front, fraction) ← cut '.' mantissa
  let e ← match exponent with
    | some e => readSigned e
    | none => some 0
  let ds := front ++ fraction
  if ds.isEmpty ∨ !ds.all Char.isDigit then none
  else some (.decimal { negative, digits := digitsValue ds
                        exponent := e - fraction.length })

/-- A whole number of a word, signed or not. -/
def whole? (s : List Char) : Option Json :=
  match readWord64 s with
  | some n => some (.nat n)
  | none => (readInt64 s).map .whole

/-- A value that is no truth value and has no marks around it. -/
def plain (s : List Char) : Json :=
  let s := trim s
  let fraction := if s.contains '.' then fractional? s else none
  match fraction with
  | some j => j
  | none => (whole? s).getD (.text (String.ofList s))

/-- The key of a field. -/
def key (s : List Char) : Option (String × List Char) :=
  match s with
  | '"' :: rest =>
      (quoted rest).map fun (k, rest) => (String.ofList k, rest)
  | s =>
      let k := s.takeWhile isBare
      if k.isEmpty then none
      else some (String.ofList k, s.dropWhile isBare)

mutual

/-- A value at the front, with the blanks around it. -/
def value : Nat → List Char → Option (Json × List Char)
  | 0, _ => none
  | fuel + 1, s =>
      let found : Option (Json × List Char) := match skipGap s with
        | 't' :: 'r' :: 'u' :: 'e' :: rest => some (.bool true, rest)
        | 'f' :: 'a' :: 'l' :: 's' :: 'e' :: rest =>
            some (.bool false, rest)
        | '{' :: rest => members fuel [] rest
        | '[' :: rest => items fuel [] rest
        | '"' :: rest =>
            (quoted rest).map fun (t, rest) =>
              (.text (String.ofList t), rest)
        | '\'' :: c :: '\'' :: rest =>
            some (.text (String.ofList [c]), rest)
        | '\'' :: _ => none
        | s =>
            some (plain (s.takeWhile fun c => !isMark c),
              s.dropWhile fun c => !isMark c)
      found.map fun (j, rest) => (j, skipGap rest)

/-- The items of a list up to its end, those before in `acc`. -/
def items : Nat → List Json → List Char → Option (Json × List Char)
  | 0, _, _ => none
  | fuel + 1, acc, s =>
      match s with
      | ']' :: rest => some (.list acc.reverse, rest)
      | s =>
          match value fuel s with
          | none => none
          | some (j, rest) =>
              match rest with
              | ',' :: rest => items fuel (j :: acc) rest
              | ']' :: rest => some (.list (j :: acc).reverse, rest)
              | _ => none

/-- The fields of an object up to its end, those before in `acc`. -/
def members : Nat → List (String × Json) → List Char →
    Option (Json × List Char)
  | 0, _, _ => none
  | fuel + 1, acc, s =>
      match s with
      | '}' :: rest => some (.object acc.reverse, rest)
      | s =>
          match key (skipGap s) with
          | none => none
          | some (k, rest) =>
              match skipGap rest with
              | '=' :: rest =>
                  match value fuel rest with
                  | none => none
                  | some (j, rest) =>
                      let acc := (k, j) :: acc
                      match rest with
                      | ',' :: rest => members fuel acc rest
                      | '}' :: rest =>
                          some (.object acc.reverse, rest)
                      | _ => none
              | _ => none

end

/-- The value of a variable. -/
def readValue (text : String) : Json :=
  let s := text.toList
  match value (2 * s.length + 2) s with
  | some (j, []) => j
  | _ => .text text

-- ==================================================================== names

/-- What the names of settings start with, in lower case. -/
def mark : List Char := "batchgate_".toList

/-- Two underscores turned into a dot, from the front. -/
def dotted : List Char → List Char
  | '_' :: '_' :: rest => '.' :: dotted rest
  | c :: rest => c :: dotted rest
  | [] => []

/-- The path into the settings that a name spells, if it is one of a
setting. -/
def path? (name : String) : Option (List String) :=
  let s := trim name.toList
  if lower (s.take mark.length) = mark then
    let path := pieces (· == '.')
      (lower (trim (dotted (s.drop mark.length))))
    if path.any (·.isEmpty) then none
    else some (path.map String.ofList)
  else none

/-- The settings that the environment makes. -/
def read (environment : List (String × String)) : Json :=
  environment.foldl
    (fun doc (name, value) =>
      match path? name with
      | some path => doc.overlaid (.nested path (readValue value))
      | none => doc)
    (.object [])

end BatchAdmin.Variables
