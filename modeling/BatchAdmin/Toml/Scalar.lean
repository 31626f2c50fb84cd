/-
Texts, numbers and dates of settings files.

Texts come in four forms: with escapes or as they stand, on one line or
on several. On several lines a line end right after the opening quotes
is dropped, a backslash at the end of a line takes the line end and the
blanks after it along, and up to two quotes may stand before the closing
ones.

Numbers may have single underscores between digits and no zeros in
front. Dates and times are checked but kept as one field of an object:
no setting takes one, and this way they are no text either.
-/
import BatchAdmin.Json.Basic
import BatchAdmin.Text.Quoted
import BatchAdmin.Text.Cut
import BatchAdmin.Time.Calendar

namespace BatchAdmin.Toml

open Text

-- ============================================================== line breaks

/-- A blank within a line. -/
def isGap (c : Char) : Bool := c == ' ' || c == '\t'

/-- What follows the blanks. -/
def skipGap (s : List Char) : List Char := s.dropWhile isGap

/-- What follows a line end, if one stands in front. -/
def lineEnd? : List Char → Option (List Char)
  | '\n' :: rest => some rest
  | '\r' :: '\n' :: rest => some rest
  | _ => none

-- ==================================================================== texts

/-- A text as it stands on one line, up to its closing quote. -/
def literalBody (s : List Char) : Option (List Char × List Char) :=
  let body := s.takeWhile fun c => c != '\'' && isPlain c
  match s.drop body.length with
  | '\'' :: rest => some (body, rest)
  | _ => none

/-- Closing quotes of a text on several lines: the quotes that still
belong to the text, and what follows. -/
def closing? (quote : Char) (s : List Char) :
    Option (List Char × List Char) :=
  let run := s.takeWhile (· == quote)
  if run.length < 3 then none
  else
    let kept := min (run.length - 3) 2
    some (run.take kept, s.drop (kept + 3))

/-- What follows blanks and line ends. -/
def skipGapsAndEnds : Nat → List Char → List Char
  | 0, s => s
  | fuel + 1, s =>
      match lineEnd? (skipGap s) with
      | some rest => skipGapsAndEnds fuel rest
      | none => skipGap s

/-- What follows the blanks and line ends that a backslash at the end of a
line takes along. -/
def folded? (s : List Char) : Option (List Char) :=
  (lineEnd? (skipGap s)).map fun rest =>
    skipGapsAndEnds rest.length rest

/-- A text on several lines, up to its closing quotes. -/
def longBody (escapes : Bool) (quote : Char) : Nat → List Char →
    List Char → Option (List Char × List Char)
  | 0, _, _ => none
  | fuel + 1, acc, s =>
      match closing? quote s with
      | some (kept, rest) => some (acc.reverse ++ kept, rest)
      | none =>
          match lineEnd? s with
          | some rest => longBody escapes quote fuel ('\n' :: acc) rest
          | none =>
              match s with
              | [] => none
              | c :: rest =>
                  if escapes && c == '\\' then
                    match folded? rest with
                    | some rest => longBody escapes quote fuel acc rest
                    | none =>
                        match escaped rest with
                        | some (c, rest) =>
                            longBody escapes quote fuel (c :: acc) rest
                        | none => none
                  else if isPlain c then
                    longBody escapes quote fuel (c :: acc) rest
                  else none

/-- A text on one line. -/
def shortText (s : List Char) : Option (List Char × List Char) :=
  match s with
  | '"' :: rest => quoted rest
  | '\'' :: rest => literalBody rest
  | _ => none

/-- A text of any of the four forms. -/
def text (s : List Char) : Option (List Char × List Char) :=
  let long (escapes : Bool) (quote : Char) (rest : List Char) :=
    longBody escapes quote (rest.length + 1) []
      ((lineEnd? rest).getD rest)
  match s with
  | '"' :: '"' :: '"' :: rest => long true '"' rest
  | '\'' :: '\'' :: '\'' :: rest => long false '\'' rest
  | s => shortText s

-- ================================================================== numbers

/-- Digits of a base with single underscores between them. -/
def digitRun? (isDigit : Char → Bool) (s : List Char) :
    Option (List Char) :=
  let parts := pieces (· == '_') s
  if parts.all fun p => !p.isEmpty && p.all isDigit then
    some parts.flatten
  else none

/-- Digits in base ten without zeros in front. -/
def decimalRun? (s : List Char) : Option (List Char) :=
  (digitRun? Char.isDigit s).bind fun ds =>
    if ds.length > 1 ∧ ds.head? = some '0' then none else some ds

/-- A sign, if one stands in front: whether it is a minus. -/
def signed (s : List Char) : Bool × List Char :=
  match s with
  | '-' :: rest => (true, rest)
  | '+' :: rest => (false, rest)
  | rest => (false, rest)

/-- A whole number of a signed word. -/
def whole? (n : Int) : Option Json :=
  if minSigned ≤ n ∧ n ≤ maxSigned then some (.whole n) else none

/-- A whole number in base sixteen, eight or two. -/
def based? (base : Nat) (isDigit : Char → Bool) (s : List Char) :
    Option Json :=
  (digitRun? isDigit s).bind fun ds =>
    whole? (ds.foldl (fun n c => base * n + (hexValue c).getD 0) 0)

/-- The least number that a double rounds to infinity: half a step above
the largest one. -/
def beyondDoubles : Nat := Nat.pow 2 1024 - Nat.pow 2 970

/-- Whether `digits` times ten to the `exponent` is rounded to infinity.
Far from the border the count of digits decides. -/
def roundsToInfinity (digits : Nat) (exponent : Int) : Bool :=
  let size : Int := (writeNat digits).length + exponent
  if digits = 0 ∨ size < 309 then false
  else if 309 < size then true
  else
    let up := Nat.pow 10 exponent.toNat
    let down := Nat.pow 10 (-exponent).toNat
    beyondDoubles * down ≤ digits * up

/-- A number with a fraction or an exponent; none that rounds to positive
infinity. -/
def fractional? (negative : Bool) (s : List Char) : Option Json := do
  let (mantissa, exponent) := match s.span fun c => c != 'e' && c != 'E' with
    | (m, _ :: e) => (m, some e)
    | (m, []) => (m, none)
  let (front, fraction) := match cut '.' mantissa with
    | some (front, fraction) => (front, some fraction)
    | none => (mantissa, none)
  let ds ← decimalRun? front
  let fs ← match fraction with
    | some fs => digitRun? Char.isDigit fs
    | none => some []
  let e ← match exponent with
    | some e =>
        let (minus, e) := signed e
        (digitRun? Char.isDigit e).map fun es =>
          if minus then -(digitsValue es : Int) else digitsValue es
    | none => some 0
  let digits := digitsValue (ds ++ fs)
  let exponent := e - fs.length
  if !negative && roundsToInfinity digits exponent then none
  else some (.decimal { negative, digits, exponent })

/-- A number written so. -/
def number? (s : List Char) : Option Json :=
  match s with
  | '0' :: 'x' :: rest =>
      based? 16 (fun c => (hexValue c).isSome) rest
  | '0' :: 'o' :: rest => based? 8 (fun c => '0' ≤ c && c ≤ '7') rest
  | '0' :: 'b' :: rest => based? 2 (fun c => c == '0' || c == '1') rest
  | s =>
      let (negative, body) := signed s
      if body = "inf".toList ∨ body = "nan".toList then
        some (.decimal { negative, digits := 0, exponent := 0 })
      else
        match decimalRun? body with
        | some ds =>
            let n : Int := digitsValue ds
            whole? (if negative then -n else n)
        | none =>
            if body.any fun c => c == '.' || c == 'e' || c == 'E' then
              fractional? negative body
            else none

-- ==================================================================== dates

/-- A number of exactly `size` digits within bounds. -/
def dated (size low high : Nat) (s : List Char) :
    Option (Nat × List Char) :=
  match readDigits (s.take size) with
  | some n =>
      if (s.take size).length = size ∧ low ≤ n ∧ n ≤ high then
        some (n, s.drop size)
      else none
  | none => none

/-- One of these characters. -/
def oneOf (cs : List Char) : List Char → Option (List Char)
  | c :: rest => if cs.contains c then some rest else none
  | [] => none

/-- A date at the front. -/
def date (s : List Char) : Option (List Char) := do
  let (year, s) ← dated 4 0 9999 s
  let s ← oneOf ['-'] s
  let (month, s) ← dated 2 1 12 s
  let s ← oneOf ['-'] s
  let (_, s) ← dated 2 1 (Calendar.daysIn year month) s
  return s

/-- A time of day at the front. -/
def timeOfDay (s : List Char) : Option (List Char) := do
  let (_, s) ← dated 2 0 23 s
  let s ← oneOf [':'] s
  let (_, s) ← dated 2 0 59 s
  let s ← oneOf [':'] s
  let (_, s) ← dated 2 0 60 s
  match s with
  | '.' :: rest =>
      if (rest.takeWhile Char.isDigit).isEmpty then none
      else some (rest.dropWhile Char.isDigit)
  | s => some s

/-- An offset from UTC at the front, if there is one. -/
def offset (s : List Char) : Option (List Char) :=
  match s with
  | 'Z' :: rest | 'z' :: rest => some rest
  | '+' :: rest | '-' :: rest => do
      let (_, rest) ← dated 2 0 23 rest
      let rest ← oneOf [':'] rest
      let (_, rest) ← dated 2 0 59 rest
      return rest
  | s => some s

/-- A date, a time of day, or both. -/
def moment (s : List Char) : Option (List Char) :=
  match date s with
  | none => timeOfDay s
  | some rest =>
      match (oneOf ['T', 't', ' '] rest).bind timeOfDay with
      | some rest => offset rest
      | none => some rest

/-- The document of a date or time. -/
def momentJson (written : List Char) : Json :=
  .object [("moment", .text (String.ofList written))]

end BatchAdmin.Toml
