/-
Forms of several parts.

The parts stand between boundary lines; what precedes the first boundary
is passed over. Each part has headers, of which one names the part and
may give it a file name, and then its content up to the next boundary.
Parts are read one at a time, since the content of a file part may be
broken off without the form being refused.
-/
import BatchAdmin.Text.Octets
import BatchAdmin.Text.Percent

namespace BatchAdmin.Web.Multipart

open Text

-- ==================================================================== marks

/-- Carriage return and line feed. -/
def lineEnd : List Octet := [13, 10]

/-- Two hyphens. -/
def hyphens : List Octet := [45, 45]

/-- What stands before the first `mark` and from it on; `before` holds
what was passed so far, in reverse. -/
def splitAt? (mark : List Octet) (before : List Octet) :
    List Octet → Option (List Octet × List Octet)
  | [] => if mark.isEmpty then some (before.reverse, []) else none
  | b :: rest =>
      if mark.isPrefixOf (b :: rest) then
        some (before.reverse, b :: rest)
      else splitAt? mark (b :: before) rest

/-- What follows `mark`, if it stands in front. -/
def behind? (mark : List Octet) (s : List Octet) :
    Option (List Octet) :=
  if mark.isPrefixOf s then some (s.drop mark.length) else none

-- ================================================================== headers

/-- A character of the name of a header. -/
def isToken (b : Octet) : Bool :=
  let c := Char.ofNat b.toNat
  c.isAlphanum || "!#$%&'*+-.^_`|~".toList.contains c

/-- An octet of the value of a header. -/
def isValue (b : Octet) : Bool :=
  b == 9 || (32 ≤ b.toNat && b.toNat != 127)

/-- A blank within a line. -/
def isGap (b : Octet) : Bool := b == 32 || b == 9

/-- An ASCII letter in lower case, any other octet as it is. -/
def lowerOctet (b : Octet) : Octet :=
  if 65 ≤ b.toNat ∧ b.toNat ≤ 90 then b + 32 else b

/-- A header line: its name in lower case, and its value without the
blanks around it. -/
def headerLine (s : List Octet) : Option (List Octet × List Octet) :=
  let name := s.takeWhile isToken
  match s.drop name.length with
  | 58 :: rest =>
      let trimmed := (rest.dropWhile isGap).reverse.dropWhile isGap
      let value := trimmed.reverse
      if name.isEmpty ∨ !value.all isValue then none
      else some (name.map lowerOctet, value)
  | _ => none

/-- A line without the carriage return at its end. -/
def withoutReturn (line : List Octet) : List Octet :=
  match line.reverse with
  | 13 :: rest => rest.reverse
  | _ => line

/-- Header lines up to the empty one; a line may also end in a line feed
alone. `fuel` bounds their number. -/
def headers : Nat → List Octet →
    Option (List (List Octet × List Octet))
  | 0, _ => none
  | fuel + 1, s =>
      match splitAt? [10] [] s with
      | none => none
      | some (line, rest) =>
          let line := withoutReturn line
          if line.isEmpty then some []
          else do
            let h ← headerLine line
            let hs ← headers fuel (rest.drop 1)
            return h :: hs

/-- The most headers a part may have. -/
def headerLimit : Nat := 32

-- ==================================================================== names

/-- What follows the blanks. -/
def skipGap (s : List Octet) : List Octet := s.dropWhile isGap

/-- A quoted value up to its closing quote; an escaped quote stands for
itself, any other backslash too. -/
def quotedValue : List Octet → Option (List Octet)
  | [] => none
  | 34 :: _ => some []
  | 92 :: 34 :: rest => (quotedValue rest).map (34 :: ·)
  | b :: rest => (quotedValue rest).map (b :: ·)

/-- The value behind the name of an attribute: after an equals sign,
quoted or up to the next semicolon or space. -/
def attributeValue (s : List Octet) : Option (List Char) :=
  match skipGap s with
  | 61 :: rest =>
      match skipGap rest with
      | 34 :: rest => (quotedValue rest).bind chars?
      | s => chars? (s.takeWhile fun b => b != 59 && b != 32)
  | _ => none

/-- The value of the attribute `name`, where that stands by itself: in
front, or behind a blank or a semicolon, which is what `apart` says of
the front of `s`. Where it does not, the search begins anew behind it.
`fuel` bounds the octets looked at. -/
def attribute? (name : List Octet) :
    Nat → Bool → List Octet → Option (List Char)
  | 0, _, _ => none
  | _, _, [] => none
  | fuel + 1, apart, b :: rest =>
      match behind? name (b :: rest) with
      | some behind =>
          if apart then attributeValue behind
          else attribute? name fuel true behind
      | none => attribute? name fuel (isGap b || b == 59) rest

-- ==================================================================== parts

/-- A part without its content. -/
structure PartHead where
  name : Option String
  fileName : Option String
  /-- What the content says it is. -/
  media : Option String
  deriving DecidableEq, Repr

/-- The value of the last header of a name. -/
def header? (hs : List (List Octet × List Octet)) (name : String) :
    Option (List Octet) :=
  (hs.reverse.find? fun h => h.1 == octetsOf name).map (·.2)

/-- The head of a part from its headers. -/
def headOf (hs : List (List Octet × List Octet)) : PartHead :=
  let disposition := (header? hs "content-disposition").getD []
  let find (name : String) :=
    (attribute? (octetsOf name) disposition.length true disposition).map
      String.ofList
  { name := find "name"
    fileName := find "filename"
    media := ((header? hs "content-type").bind chars?).map
      String.ofList }

/-- What comes next in a form. -/
inductive Next where
  /-- Nothing: the form has ended. -/
  | done
  | part (head : PartHead) (rest : List Octet)

/-- The form from its first boundary on. -/
def start? (boundary : List Octet) (s : List Octet) :
    Option (List Octet) :=
  (splitAt? (hyphens ++ boundary) [] s).map (·.2)

/-- The next part of a form that stands at a boundary; none if the form
is cut off or not well formed. -/
def next? (boundary : List Octet) (s : List Octet) : Option Next := do
  let s ← behind? (hyphens ++ boundary) s
  if s.length < 2 then none
  else if (behind? hyphens s).isSome then some .done
  else
    let s ← behind? lineEnd (s.dropWhile isGap)
    let (lines, rest) ← splitAt? (lineEnd ++ lineEnd) [] s
    let hs ← headers (headerLimit + 1) (lines ++ lineEnd ++ lineEnd)
    return .part (headOf hs) (rest.drop 4)

/-- The content of a part, and the form from the next boundary on; none
if the form ends first. -/
def content? (boundary : List Octet) (s : List Octet) :
    Option (List Octet × List Octet) :=
  (splitAt? (lineEnd ++ hyphens ++ boundary) [] s).map
    fun (content, rest) => (content, rest.drop lineEnd.length)

end BatchAdmin.Web.Multipart
