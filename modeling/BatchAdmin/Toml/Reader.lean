/-
Settings files: the text of a file read into a document.

A file is read line by line: blank, a comment, a header or an
assignment. Values may be nested, to a fixed depth; the budget of steps
is the length of the text, since every step of a value takes a
character. A file that is not well formed, or says one thing twice, has
no document at all.
-/
import BatchAdmin.Toml.Tree
import BatchAdmin.Toml.Scalar

namespace BatchAdmin.Toml

open Text

/-- Lists and inline tables nest less deep than this, and a dotted key has
fewer names. -/
def depthLimit : Nat := 80

-- ================================================================= comments

/-- What follows a comment, if one stands in front. -/
def skipComment (s : List Char) : List Char :=
  match s with
  | '#' :: rest => rest.dropWhile isPlain
  | s => s

/-- What follows blanks, comments and line ends. -/
def skipSpace : Nat → List Char → List Char
  | 0, s => s
  | fuel + 1, s =>
      let s := skipComment (skipGap s)
      match lineEnd? s with
      | some rest => skipSpace fuel rest
      | none => s

/-- The rest of a line on which nothing more is said. -/
def finishLine (s : List Char) : Option (List Char) :=
  let s := skipComment (skipGap s)
  if s.isEmpty then some [] else lineEnd? s

-- ===================================================================== keys

/-- A character of a bare key. -/
def isBare (c : Char) : Bool :=
  c.isAlphanum || c == '_' || c == '-'

/-- One key at the front. -/
def simpleKey (s : List Char) : Option (String × List Char) :=
  match s with
  | '"' :: _ | '\'' :: _ =>
      (shortText s).map fun (k, rest) => (String.ofList k, rest)
  | s =>
      let k := s.takeWhile isBare
      if k.isEmpty then none
      else some (String.ofList k, s.dropWhile isBare)

/-- At most so many keys with dots between them. -/
def keysUpTo : Nat → List Char → Option (List String × List Char)
  | 0, _ => none
  | most + 1, s => do
      let (k, rest) ← simpleKey (skipGap s)
      match skipGap rest with
      | '.' :: rest =>
          let (ks, rest) ← keysUpTo most rest
          return (k :: ks, rest)
      | rest => return ([k], rest)

/-- A dotted key at the front. -/
def dottedKey (s : List Char) : Option (List String × List Char) :=
  keysUpTo (depthLimit - 1) s

/-- A dotted key cut into its path and its last name. -/
def splitKey (ks : List String) : Option (List String × String) :=
  ks.getLast?.map fun name => (ks.dropLast, name)

/-- A dotted key and the sign that an assignment has after it. -/
def assigned (s : List Char) :
    Option ((List String × String) × List Char) := do
  let (ks, rest) ← dottedKey s
  let key ← splitKey ks
  match rest with
  | '=' :: rest => some (key, skipGap rest)
  | _ => none

-- =================================================================== values

/-- A character of a number or a date. -/
def isNumeric (c : Char) : Bool :=
  c.isAlphanum || c == '_' || c == '-' || c == '+' || c == '.'

/-- A number or a date at the front. -/
def numeric (s : List Char) : Option (Json × List Char) :=
  match moment s with
  | some rest =>
      some (momentJson (s.take (s.length - rest.length)), rest)
  | none =>
      (number? (s.takeWhile isNumeric)).map fun j =>
        (j, s.dropWhile isNumeric)

mutual

/-- A value at the front, inside `depth` lists and inline tables. -/
def value : Nat → Nat → List Char → Option (Json × List Char)
  | 0, _, _ => none
  | fuel + 1, depth, s =>
      match s with
      | '"' :: _ | '\'' :: _ =>
          (text s).map fun (t, rest) => (.text (String.ofList t), rest)
      | '[' :: rest =>
          if depth + 1 < depthLimit then items fuel (depth + 1) [] rest
          else none
      | '{' :: rest =>
          if depth + 1 < depthLimit then
            match skipGap rest with
            | '}' :: rest => some (.object [], rest)
            | rest =>
                members fuel (depth + 1) (Node.emptyTable .header) rest
          else none
      | 't' :: 'r' :: 'u' :: 'e' :: rest => some (.bool true, rest)
      | 'f' :: 'a' :: 'l' :: 's' :: 'e' :: rest =>
          some (.bool false, rest)
      | s => numeric s

/-- The items of a list up to its end, those before in `acc`. -/
def items : Nat → Nat → List Json → List Char →
    Option (Json × List Char)
  | 0, _, _, _ => none
  | fuel + 1, depth, acc, s =>
      match skipSpace (s.length + 1) s with
      | ']' :: rest => some (.list acc.reverse, rest)
      | s =>
          match value fuel depth s with
          | none => none
          | some (j, rest) =>
              match skipSpace (rest.length + 1) rest with
              | ',' :: rest => items fuel depth (j :: acc) rest
              | ']' :: rest => some (.list (j :: acc).reverse, rest)
              | _ => none

/-- The fields of an inline table up to its end. -/
def members : Nat → Nat → Node → List Char →
    Option (Json × List Char)
  | 0, _, _, _ => none
  | fuel + 1, depth, node, s =>
      match assigned s with
      | none => none
      | some ((path, name), rest) =>
          match value fuel depth rest with
          | none => none
          | some (j, rest) =>
              match node.assign path name j with
              | none => none
              | some node =>
                  match skipGap rest with
                  | ',' :: rest => members fuel depth node rest
                  | '}' :: rest => some (node.toJson, rest)
                  | _ => none

end

-- ==================================================================== lines

/-- A header, its closing brackets included: the path and the last
name. -/
def header (close : List Char) (s : List Char) :
    Option ((List String × String) × List Char) := do
  let (ks, rest) ← dottedKey s
  let key ← splitKey ks
  let rest ← after? close rest
  return (key, ← finishLine rest)

/-- A file as read so far: its tables and the path of the open one. -/
structure Progress where
  root : Node
  current : List String

/-- One line and what follows it. -/
def line (p : Progress) (s : List Char) :
    Option (Progress × List Char) :=
  match skipGap s with
  | '[' :: '[' :: rest => do
      let ((path, name), rest) ← header [']', ']'] rest
      let root ← p.root.atPath false (Node.addTable name) path
      return (⟨root, path ++ [name]⟩, rest)
  | '[' :: rest => do
      let ((path, name), rest) ← header [']'] rest
      let root ← p.root.atPath false (Node.openTable name) path
      return (⟨root, path ++ [name]⟩, rest)
  | s =>
      match finishLine s with
      | some rest => some (p, rest)
      | none => do
          let ((path, name), rest) ← assigned s
          let (v, rest) ← value (2 * rest.length + 2) 0 rest
          let root ←
            p.root.atPath false (Node.assign path name v) p.current
          return (⟨root, p.current⟩, ← finishLine rest)

/-- All lines. -/
def lines : Nat → Progress → List Char → Option Node
  | _, p, [] => some p.root
  | 0, _, _ => none
  | fuel + 1, p, s =>
      match line p s with
      | some (p, rest) => lines fuel p rest
      | none => none

/-- The text without a byte order mark in front. -/
def withoutMark (s : List Char) : List Char :=
  match s with
  | c :: rest => if c.toNat = 0xFEFF then rest else s
  | [] => []

/-- The document that the text of a file holds. -/
def read? (text : String) : Option Json :=
  let s := withoutMark text.toList
  (lines (s.length + 1) ⟨Node.emptyTable .header, []⟩ s).map
    Node.toJson

end BatchAdmin.Toml
