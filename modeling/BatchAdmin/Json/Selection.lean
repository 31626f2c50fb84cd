/-
Documents of which only some fields matter.

A reader that knows the fields of an object need not understand the
others: their values are passed over, and all that is asked of them is
that they are well formed. They may be nested as deep as they like,
their numbers have no bound, and an escaped surrogate may stand alone,
since no text is made of it. The names of all fields are read in full.

What is open on the way is kept as a list of brackets, so the depth of a
value that is passed over is only the length of that list.
-/
import BatchAdmin.Json.Reader

namespace BatchAdmin.Json

open Text

-- ============================================================= passing over

/-- A character that may stand behind a backslash, `u` aside. -/
def isEscape (c : Char) : Bool :=
  "\"\\/bfnrt".toList.contains c

/-- What follows a text, its opening quote already taken. -/
def skipText : List Char → Option (List Char)
  | [] => none
  | '"' :: rest => some rest
  | '\\' :: 'u' :: a :: b :: c :: d :: rest =>
      if [a, b, c, d].all fun h => (hexValue h).isSome then skipText rest
      else none
  | '\\' :: e :: rest => if isEscape e then skipText rest else none
  | c :: rest =>
      if c.toNat < 0x20 ∨ c = '\\' then none else skipText rest

/-- What follows a value that is neither list nor object. -/
def skipPlain (s : List Char) : Option (List Char) :=
  match s with
  | 'n' :: 'u' :: 'l' :: 'l' :: rest => some rest
  | 't' :: 'r' :: 'u' :: 'e' :: rest => some rest
  | 'f' :: 'a' :: 'l' :: 's' :: 'e' :: rest => some rest
  | '"' :: rest => skipText rest
  | '-' :: rest => (numeral true rest).map (·.2)
  | rest => (numeral false rest).map (·.2)

/-- What follows the name of a field and the colon behind it. -/
def skipName (s : List Char) : Option (List Char) := do
  match skipGap s with
  | '"' :: rest =>
      match skipGap (← skipText rest) with
      | ':' :: rest => some rest
      | _ => none
  | _ => none

/-- A bracket that was opened. -/
inductive Bracket where
  | list
  | object
  deriving DecidableEq, Repr

/-- What follows the opening of an item: nothing in a list, its name in
an object. -/
def skipLead (b : Bracket) (s : List Char) : Option (List Char) :=
  match b with
  | .list => some s
  | .object => skipName s

mutual

/-- What follows a value and the closing of all `opened` brackets. -/
def skipValue : Nat → List Bracket → List Char → Option (List Char)
  | 0, _, _ => none
  | fuel + 1, opened, s =>
      match skipGap s with
      | '[' :: rest =>
          match skipGap rest with
          | ']' :: rest => skipRest fuel opened rest
          | rest => skipValue fuel (.list :: opened) rest
      | '{' :: rest =>
          match skipGap rest with
          | '}' :: rest => skipRest fuel opened rest
          | rest =>
              match skipName rest with
              | some rest => skipValue fuel (.object :: opened) rest
              | none => none
      | rest =>
          match skipPlain rest with
          | some rest => skipRest fuel opened rest
          | none => none

/-- What follows the closing of all `opened` brackets, a value already
passed. -/
def skipRest : Nat → List Bracket → List Char → Option (List Char)
  | 0, _, _ => none
  | _, [], s => some s
  | fuel + 1, b :: opened, s =>
      match b, skipGap s with
      | b, ',' :: rest =>
          match skipLead b rest with
          | some rest => skipValue fuel (b :: opened) rest
          | none => none
      | .list, ']' :: rest => skipRest fuel opened rest
      | .object, '}' :: rest => skipRest fuel opened rest
      | _, _ => none

end

/-- What follows a value. -/
def skip (s : List Char) : Option (List Char) :=
  skipValue (2 * s.length + 2) [] s

-- ================================================================ selection

/-- A value under a name, read if it is wanted and passed over
otherwise. -/
def wantedValue (isWanted : Bool) (s : List Char) :
    Option (Option Json × List Char) :=
  if isWanted then
    (value (2 * s.length + 2) (depthLimit - 1) s).map
      fun (j, rest) => (some j, rest)
  else (skip s).map fun rest => (none, rest)

/-- The wanted fields of an object from one on, those before in `acc`;
`fuel` bounds their number. -/
def wantedFields (wanted : List String) :
    Nat → List (String × Json) → List Char → Option (Json × List Char)
  | 0, _, _ => none
  | fuel + 1, acc, s => do
      match skipGap s with
      | '"' :: rest =>
          let (name, rest) ← textBody (rest.length + 1) [] rest
          let name := String.ofList name
          match skipGap rest with
          | ':' :: rest =>
              let (found, rest) ← wantedValue (wanted.contains name) rest
              let acc := (found.toList.map fun j => (name, j)) ++ acc
              match skipGap rest with
              | ',' :: rest => wantedFields wanted fuel acc rest
              | '}' :: rest => some (.object acc.reverse, rest)
              | _ => none
          | _ => none
      | _ => none

/-- The document a text holds; of an object only the wanted fields. -/
def selected? (wanted : List String) (s : List Char) : Option Json :=
  match skipGap s with
  | '{' :: rest =>
      match skipGap rest with
      | '}' :: _ => read? s
      | rest =>
          match wantedFields wanted (rest.length + 1) [] rest with
          | some (j, rest) =>
              if (skipGap rest).isEmpty then some j else none
          | none => none
  | _ => read? s

end BatchAdmin.Json
