/-
Documents from text.

The grammar is the standard one, read strictly: blanks are space, tab
and the two line ends; a numeral has no leading zeros or plus sign; a
text may not hold a raw control character, and an escaped surrogate
must come with its other half. Lists and objects may be nested 127
deep, which keeps a request from exhausting its reader. A numeral
without fraction and exponent that fits a 64-bit word is a whole
number; every other numeral, the negative zero included, is a decimal.

The reader is a recursion with a budget of steps. Of two steps in a row
at least one takes a character, so twice the length of the text is
budget enough and `read?` shows none.
-/
import BatchAdmin.Json.Basic

namespace BatchAdmin.Json

open Text

-- ================================================================= blanks

/-- The blanks between tokens. -/
def isGap (c : Char) : Bool :=
  c == ' ' || c == '\t' || c == '\n' || c == '\r'

/-- The text behind the blanks. -/
def skipGap (s : List Char) : List Char :=
  s.dropWhile isGap

-- ================================================================== texts

/-- The number of four hexadecimal digits. -/
def hex4 : List Char → Option (Nat × List Char)
  | a :: b :: c :: d :: rest =>
      match hexValue a, hexValue b, hexValue c, hexValue d with
      | some w, some x, some y, some z =>
          some (((w * 16 + x) * 16 + y) * 16 + z, rest)
      | _, _, _, _ => none
  | _ => none

/-- The character of an escape `\u…`, its second half included. -/
def unicodeChar (s : List Char) : Option (Char × List Char) :=
  match hex4 s with
  | none => none
  | some (n, rest) =>
      if 0xD800 ≤ n ∧ n < 0xDC00 then
        match rest with
        | '\\' :: 'u' :: more =>
            match hex4 more with
            | some (m, rest') =>
                if 0xDC00 ≤ m ∧ m < 0xE000 then
                  let point := 0x10000 + (n - 0xD800) * 0x400 + (m - 0xDC00)
                  some (Char.ofNat point, rest')
                else none
            | none => none
        | _ => none
      else if 0xDC00 ≤ n ∧ n < 0xE000 then none
      else some (Char.ofNat n, rest)

/-- The characters up to the closing quote, and what follows it. -/
def textBody : Nat → List Char → List Char → Option (List Char × List Char)
  | 0, _, _ => none
  | fuel + 1, acc, s =>
      match s with
      | [] => none
      | '"' :: rest => some (acc.reverse, rest)
      | '\\' :: e :: rest =>
          match e with
          | '"' => textBody fuel ('"' :: acc) rest
          | '\\' => textBody fuel ('\\' :: acc) rest
          | '/' => textBody fuel ('/' :: acc) rest
          | 'b' => textBody fuel ('\x08' :: acc) rest
          | 'f' => textBody fuel ('\x0c' :: acc) rest
          | 'n' => textBody fuel ('\n' :: acc) rest
          | 'r' => textBody fuel ('\r' :: acc) rest
          | 't' => textBody fuel ('\t' :: acc) rest
          | 'u' =>
              match unicodeChar rest with
              | some (c, rest') => textBody fuel (c :: acc) rest'
              | none => none
          | _ => none
      | c :: rest =>
          if c.toNat < 0x20 ∨ c = '\\' then none
          else textBody fuel (c :: acc) rest

-- =============================================================== numerals

/-- The digits at the front. -/
def digitRun (s : List Char) : List Char × List Char :=
  (s.takeWhile Char.isDigit, s.dropWhile Char.isDigit)

/-- A fraction, if a point stands in front: its digits. -/
def fractionPart (s : List Char) : Option (List Char × List Char) :=
  match s with
  | '.' :: rest =>
      let (ds, rest') := digitRun rest
      if ds.isEmpty then none else some (ds, rest')
  | _ => some ([], s)

/-- An exponent, if its mark stands in front. -/
def exponentPart (s : List Char) : Option (Option Int × List Char) :=
  match s with
  | e :: rest =>
      if e = 'e' ∨ e = 'E' then
        let (sign, body) := match rest with
          | '-' :: r => ((-1 : Int), r)
          | '+' :: r => (1, r)
          | r => (1, r)
        let (ds, rest') := digitRun body
        if ds.isEmpty then none
        else some (some (sign * digitsValue ds), rest')
      else some (none, s)
  | [] => some (none, s)

/-- A numeral without its sign. -/
def numeral (negative : Bool) (s : List Char) :
    Option (Json × List Char) :=
  let (ds, rest) := digitRun s
  let zeroLed := ds.length > 1 && ds.head? == some '0'
  if ds.isEmpty || zeroLed then none
  else
    match fractionPart rest with
    | none => none
    | some (fs, rest') =>
        match exponentPart rest' with
        | none => none
        | some (e, rest'') =>
            let n := digitsValue ds
            let signed : Int := if negative then -(n : Int) else n
            let fits := minSigned ≤ signed && signed ≤ (maxWord : Int)
              && !(negative && signed == 0)
            let exact := fs.isEmpty && e.isNone && fits
            if exact then some (.whole signed, rest'')
            else
              let x : Decimal :=
                { negative, digits := digitsValue (ds ++ fs)
                  exponent := e.getD 0 - fs.length }
              some (.decimal x, rest'')

-- ============================================================== documents

mutual

/-- One document at the front of the text. -/
def value : Nat → Nat → List Char → Option (Json × List Char)
  | 0, _, _ => none
  | fuel + 1, depth, s =>
      match skipGap s with
      | 'n' :: 'u' :: 'l' :: 'l' :: rest => some (.null, rest)
      | 't' :: 'r' :: 'u' :: 'e' :: rest => some (.bool true, rest)
      | 'f' :: 'a' :: 'l' :: 's' :: 'e' :: rest => some (.bool false, rest)
      | '"' :: rest =>
          match textBody (rest.length + 1) [] rest with
          | some (t, rest') => some (.text (String.ofList t), rest')
          | none => none
      | '-' :: rest => numeral true rest
      | '[' :: rest =>
          if depth ≤ 1 then none
          else
            match skipGap rest with
            | ']' :: rest' => some (.list [], rest')
            | rest' => items fuel (depth - 1) [] rest'
      | '{' :: rest =>
          if depth ≤ 1 then none
          else
            match skipGap rest with
            | '}' :: rest' => some (.object [], rest')
            | rest' => members fuel (depth - 1) [] rest'
      | rest => numeral false rest

/-- The items of a list from one on, those before it in `acc`. -/
def items : Nat → Nat → List Json → List Char →
    Option (Json × List Char)
  | 0, _, _, _ => none
  | fuel + 1, depth, acc, s =>
      match value fuel depth s with
      | none => none
      | some (j, rest) =>
          match skipGap rest with
          | ',' :: rest' => items fuel depth (j :: acc) rest'
          | ']' :: rest' => some (.list (j :: acc).reverse, rest')
          | _ => none

/-- The fields of an object from one on, those before it in `acc`. -/
def members : Nat → Nat → List (String × Json) → List Char →
    Option (Json × List Char)
  | 0, _, _, _ => none
  | fuel + 1, depth, acc, s =>
      match skipGap s with
      | '"' :: rest =>
          match textBody (rest.length + 1) [] rest with
          | none => none
          | some (name, rest') =>
              match skipGap rest' with
              | ':' :: rest'' =>
                  match value fuel depth rest'' with
                  | none => none
                  | some (j, more) =>
                      let acc' := (String.ofList name, j) :: acc
                      match skipGap more with
                      | ',' :: more' => members fuel depth acc' more'
                      | '}' :: more' => some (.object acc'.reverse, more')
                      | _ => none
              | _ => none
      | _ => none

end

/-- How deep lists and objects may be nested, plus one. -/
def depthLimit : Nat := 128

/-- The document a text holds, blanks around it allowed. -/
def read? (s : List Char) : Option Json :=
  match value (2 * s.length + 2) depthLimit s with
  | some (j, rest) => if (skipGap rest).isEmpty then some j else none
  | none => none

end BatchAdmin.Json
