/-
Paths of web addresses.

The names between the slashes of a path are gone through in order: a dot
stays, two dots go back one, and at the end of the path either leads to
a folder. The octets that a part of an address may not have are escaped,
those of other characters than ASCII among them.
-/
import BatchAdmin.Text.Percent

namespace BatchAdmin.WebAddress

open Text

-- ================================================================== escapes

/-- A control character or an octet beyond ASCII. -/
def isControl (b : Octet) : Bool := b.toNat < 0x20 || 0x7F ≤ b.toNat

/-- One of these characters. -/
def isOneOf (cs : String) (b : Octet) : Bool :=
  cs.toList.contains (Char.ofNat b.toNat)

/-- A text with the octets escaped that `isOut` picks besides
controls. -/
def escapedFor (isOut : Octet → Bool) (s : List Char) : List Char :=
  (octets s).flatMap fun b =>
    if isControl b || isOut b then escape b else [Char.ofNat b.toNat]

/-- A path with its escapes. -/
def escapedPath (s : List Char) : List Char :=
  escapedFor (isOneOf " \"#<>?\x60\x7b\x7d") s

/-- A query with its escapes; in addresses of web services it may not
hold an apostrophe. -/
def escapedQuery (isSpecial : Bool) (s : List Char) : List Char :=
  escapedFor (isOneOf (if isSpecial then " \"#<>'" else " \"#<>")) s

/-- A fragment with its escapes. -/
def escapedFragment (s : List Char) : List Char :=
  escapedFor (isOneOf " \"<>\x60") s

-- ===================================================================== names

/-- The name of the folder itself. -/
def isHere (name : List Char) : Bool :=
  [".", "%2e"].contains (String.ofList (lower name))

/-- The name of the folder above. -/
def isAbove (name : List Char) : Bool :=
  ["..", ".%2e", "%2e.", "%2e%2e"].contains (String.ofList (lower name))

/-- Names in order, gone through from where `passed` leads, the last
name first. -/
def walked (passed : List (List Char)) :
    List (List Char) → List (List Char)
  | [] => passed.reverse
  | [last] =>
      if isAbove last then ([] :: passed.tail).reverse
      else if isHere last then ([] :: passed).reverse
      else (last :: passed).reverse
  | name :: more =>
      if isAbove name then walked passed.tail more
      else if isHere name then walked passed more
      else walked (name :: passed) more

/-- A path from the root, in the names between the characters `isSlash`
picks; what stands before the first of them is dropped, if empty. -/
def rooted (isSlash : Char → Bool) (path : List Char) : List Char :=
  let names := match pieces isSlash path with
    | [] :: first :: more => first :: more
    | names => names
  '/' :: joined ['/'] ((walked [] names).map escapedPath)

end BatchAdmin.WebAddress
