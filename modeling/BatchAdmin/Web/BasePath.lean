/-
Base paths: what stands in front of every route.

A base path is a text with holes. A hole is written `{name}`, stands for
anything up to the next slash and ends its segment; a brace that is
meant as such is written twice. What a path has in the place of a hole
is a parameter like those of the route behind it.
-/
import BatchAdmin.Text.Cut

namespace BatchAdmin.Web

-- =================================================================== pieces

/-- A piece of a base path. -/
inductive BasePiece where
  | char (c : Char)
  /-- Anything up to the next slash. -/
  | hole
  deriving DecidableEq, Repr

/-- A base path as its pieces. -/
abbrev BasePath := List BasePiece

namespace BasePath

/-- A character that no name of a hole has. -/
def isForeign (c : Char) : Bool := c == '/' || c == '*'

/-- What follows the brace that closes a hole. -/
def behindName : List Char → Option (List Char)
  | '}' :: '}' :: rest => behindName rest
  | '}' :: rest => some rest
  | c :: rest => if isForeign c then none else behindName rest
  | [] => none

/-- What follows a hole that ends its segment, its opening brace already
taken. -/
def behindHole (s : List Char) : Option (List Char) :=
  if s.head? = some '}' then none
  else
    match behindName s with
    | some [] => some []
    | some ('/' :: rest) => some ('/' :: rest)
    | _ => none

/-- The pieces of a text; `fuel` bounds their number. -/
def piecesFrom : Nat → List Char → BasePath
  | 0, _ => []
  | _, [] => []
  | fuel + 1, c :: rest =>
      let isBrace := c == '{' || c == '}'
      if isBrace && rest.head? == some c then
        .char c :: piecesFrom fuel rest.tail
      else
        match if c == '{' then behindHole rest else none with
        | some rest => .hole :: piecesFrom fuel rest
        | none => .char c :: piecesFrom fuel rest

/-- The base path that a text describes. -/
def ofText (s : List Char) : BasePath := piecesFrom s.length s

-- ================================================================= matching

/-- How many holes a base path has. -/
def holes (base : BasePath) : Nat := base.count .hole

/-- What a path has behind a base path, if it starts with it. -/
def behind? : BasePath → List Char → Option (List Char)
  | [], path => some path
  | .char _ :: _, [] => none
  | .char c :: base, d :: path =>
      if c = d then behind? base path else none
  | .hole :: base, path => behind? base (path.dropWhile (· != '/'))

end BasePath

end BatchAdmin.Web
