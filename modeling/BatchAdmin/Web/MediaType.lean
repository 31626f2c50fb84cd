/-
Media types: what the body of a request says it is.

A type and a subtype, each a word, with named parameters behind, each
after a semicolon. Words are in any case; the value of a parameter keeps
its case and may be quoted, and then it is not empty: its first
character counts whatever it is, a quote included. A subtype may carry a
suffix after its last plus sign.
-/
import BatchAdmin.Text.Cut

namespace BatchAdmin.Web

open Text

/-- A media type. -/
structure MediaType where
  type : List Char
  subtype : List Char
  suffix : Option (List Char)
  parameters : List (List Char × List Char)

namespace MediaType

/-- A character of a word. -/
def isWord (c : Char) : Bool :=
  c.isAlphanum || "!#$%&'*+-.^_`|~".toList.contains c

/-- A non-empty word at the front. -/
def word (s : List Char) : Option (List Char × List Char) :=
  let w := s.takeWhile isWord
  if w.isEmpty then none else some (w, s.drop w.length)

/-- What follows the blanks. -/
def skipBlanks (s : List Char) : List Char := s.dropWhile (· == ' ')

/-- A character of a quoted value. -/
def isQuotable (c : Char) : Bool :=
  0x20 ≤ c.toNat && c.toNat < 0x7F

/-- A quoted value and what follows its closing quote, the opening one
already taken. -/
def quotedValue (s : List Char) : Option (List Char × List Char) :=
  match s with
  | [] => none
  | c :: rest =>
      let v := c :: rest.takeWhile (· != '"')
      match rest.drop (v.length - 1) with
      | '"' :: rest => if v.all isQuotable then some (v, rest) else none
      | _ => none

/-- The value of a parameter, and what follows the semicolon after it;
only at the very end may there be no value. -/
def parameterValue (s : List Char) :
    Option (List Char × List Char) :=
  match s with
  | '"' :: rest => do
      let (v, rest) ← quotedValue rest
      match skipBlanks rest with
      | [] => some (v, [])
      | ';' :: rest => some (v, rest)
      | _ => none
  | s =>
      let v := s.takeWhile isWord
      match s.drop v.length with
      | [] => some (v, [])
      | ';' :: rest => if v.isEmpty then none else some (v, rest)
      | _ => none

/-- Parameters with semicolons between them; `fuel` bounds their
number. -/
def parametersFrom : Nat → List Char →
    Option (List (List Char × List Char))
  | 0, _ => none
  | fuel + 1, s =>
      let s := skipBlanks s
      if s.isEmpty then some []
      else
        match word s with
        | some (name, '=' :: rest) => do
            let (v, rest) ← parameterValue rest
            let ps ← parametersFrom fuel rest
            return (lower name, v) :: ps
        | _ => none

/-- A subtype cut at its last plus sign. -/
def cutSuffix (s : List Char) : List Char × Option (List Char) :=
  match cut '+' s.reverse with
  | some (suffix, base) =>
      if base.isEmpty then (s, none)
      else (base.reverse, some suffix.reverse)
  | none => (s, none)

/-- The media type that a text names. -/
def read? (s : List Char) : Option MediaType := do
  let (type, rest) ← word s
  match rest with
  | '/' :: rest =>
      let (sub, rest) ← word rest
      let (subtype, suffix) := cutSuffix (lower sub)
      let parameters ← match rest with
        | [] => some []
        | ';' :: rest => parametersFrom (rest.length + 1) rest
        | _ => none
      return { type := lower type, subtype, suffix, parameters }
  | _ => none

/-- The type is that of a document. -/
def isDocument (m : MediaType) : Bool :=
  m.type == "application".toList
    && (m.subtype == "json".toList || m.suffix == some "json".toList)

/-- The value of the first parameter of a name. -/
def parameter? (m : MediaType) (name : String) : Option (List Char) :=
  (m.parameters.find? fun p => p.1 == name.toList).map (·.2)

/-- The boundary between the parts of a form. -/
def boundary? (m : MediaType) : Option (List Char) :=
  if m.type = "multipart".toList ∧ m.subtype = "form-data".toList then
    m.parameter? "boundary"
  else none

end MediaType

end BatchAdmin.Web
