/-
Instants as text: the date-time format of RFC 3339.

Written, an instant is in UTC and ends in `Z`. Fraction digits come in
groups of three: `written` uses the fewest groups that lose nothing,
none of them if the instant is a whole second; `writtenMillis` always
uses one group and drops what is below the millisecond, as listings of
files do. A year outside 0 to 9999 carries its sign. An instant in a
leap second is written with the second 60.

Read, a time may carry any offset, and up to nine fraction digits count;
the second 60 may stand in any minute.
-/
import BatchAdmin.Time.Instant
import BatchAdmin.Time.Calendar
import BatchAdmin.Text.Numeral

namespace BatchAdmin.Instant

open Text Calendar

-- ================================================================ writing

/-- Nanoseconds within the second, a leap second being one of its
own. -/
def subsecond (t : Instant) : Nat := t.fraction % second

/-- The second of the minute, 60 in a leap second. -/
def shownSecond (t : Instant) : Nat :=
  t.clock % 60 + t.fraction / second

/-- The year of an instant. -/
def year (t : Instant) : Int := (dateOf (t.seconds.fdiv 86400)).year

/-- A year in at least four digits. -/
def writtenYear (y : Int) : List Char :=
  if 0 ≤ y ∧ y ≤ 9999 then writePadded 4 y.natAbs
  else (if y < 0 then '-' else '+') :: writePadded 4 y.natAbs

/-- Date and time of day to the second. -/
def writtenSeconds (t : Instant) : List Char :=
  let d := dateOf (t.seconds.fdiv 86400)
  writtenYear d.year ++ '-' :: writePadded 2 d.month
    ++ '-' :: writePadded 2 d.day ++ 'T' :: writePadded 2 (t.clock / 3600)
    ++ ':' :: writePadded 2 (t.clock / 60 % 60)
    ++ ':' :: writePadded 2 t.shownSecond

/-- Fraction digits in the fewest groups of three that lose nothing. -/
def fractionGroups (n : Nat) : List Char :=
  if n = 0 then []
  else if n % 1000000 = 0 then '.' :: writePadded 3 (n / 1000000)
  else if n % 1000 = 0 then '.' :: writePadded 6 (n / 1000)
  else '.' :: writePadded 9 n

/-- An instant in full. -/
def written (t : Instant) : String :=
  String.ofList (t.writtenSeconds ++ fractionGroups t.subsecond ++ ['Z'])

/-- An instant to the millisecond. -/
def writtenMillis (t : Instant) : String :=
  let fraction := '.' :: writePadded 3 (t.subsecond / 1000000)
  String.ofList (t.writtenSeconds ++ fraction ++ ['Z'])

-- ================================================================ reading

/-- A number of exactly `width` digits at the front. -/
def fixed (width : Nat) (s : List Char) : Option (Nat × List Char) :=
  let ds := s.take width
  if ds.length = width then
    (readDigits ds).map fun n => (n, s.drop width)
  else none

/-- One character at the front. -/
def expect (ok : Char → Bool) : List Char → Option (List Char)
  | c :: rest => if ok c then some rest else none
  | [] => none

/-- The nanoseconds of a fraction, if there is one. -/
def readFraction (s : List Char) : Option (Nat × List Char) :=
  match s with
  | '.' :: rest =>
      let ds := rest.takeWhile Char.isDigit
      if ds.isEmpty then none
      else
        let nine := (ds ++ List.replicate 9 '0').take 9
        some (digitsValue nine, rest.dropWhile Char.isDigit)
  | _ => some (0, s)

/-- The offset from UTC in seconds. -/
def readOffset (s : List Char) : Option (Int × List Char) :=
  match s with
  | 'Z' :: rest | 'z' :: rest => some (0, rest)
  | sign :: rest =>
      if sign = '+' ∨ sign = '-' then do
        let (h, rest) ← fixed 2 rest
        let rest ← expect (· == ':') rest
        let (m, rest) ← fixed 2 rest
        if h < 24 ∧ m < 60 then
          let away : Int := h * 3600 + m * 60
          some (if sign = '-' then -away else away, rest)
        else none
      else none
  | [] => none

/-- The instant a written time names. -/
def read? (text : String) : Option Instant := do
  let s := text.toList
  let (year, s) ← fixed 4 s
  let s ← expect (· == '-') s
  let (month, s) ← fixed 2 s
  let s ← expect (· == '-') s
  let (day, s) ← fixed 2 s
  let s ← expect (fun c => c == 'T' || c == 't' || c == ' ') s
  let (hour, s) ← fixed 2 s
  let s ← expect (· == ':') s
  let (minute, s) ← fixed 2 s
  let s ← expect (· == ':') s
  let (sec, s) ← fixed 2 s
  let (fraction, s) ← readFraction s
  let (away, s) ← readOffset s
  let dated := 1 ≤ month && month ≤ 12 && 1 ≤ day
    && day ≤ daysIn year month
  let timed := hour < 24 && minute < 60 && sec ≤ 60
  if s.isEmpty && dated && timed then
    let days := dayNumber { year, month, day }
    let clock : Int := hour * 3600 + minute * 60 + min sec 59
    some ⟨days * 86400 + clock - away, fraction + (sec - 59) * second⟩
  else none

end BatchAdmin.Instant
