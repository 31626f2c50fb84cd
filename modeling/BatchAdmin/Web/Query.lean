/-
Query strings.

A handler names the fields that it knows; each may be given once, others
are passed over. Numbers may carry a sign; truth values are in lower
case. A field that is given must be fit for use, whether or not it turns
out to be needed.

The target of a request is a path with a query string, or an absolute
address of which only those two count.
-/
import BatchAdmin.Failure
import BatchAdmin.Text.Percent

namespace BatchAdmin.Web

open Text

/-- The fields of a query string in order. -/
abbrev Query := List (List Char × List Char)

namespace Query

/-- The value of a field that may be given once. -/
def once (q : Query) (name : String) : Answer (Option (List Char)) :=
  match q.filter fun f => f.1 == name.toList with
  | [] => .ok none
  | [f] => .ok (some f.2)
  | _ => .error (.invalidRequest ("duplicate field: " ++ name))

/-- A field with a text. -/
def text (q : Query) (name : String) : Answer (Option String) := do
  return (← q.once name).map String.ofList

/-- A field with a number. -/
def number (q : Query) (name : String) : Answer (Option Int) := do
  match ← q.once name with
  | none => return none
  | some s =>
      match readInt64 s with
      | some n => return some n
      | none => throw (.invalidRequest ("not a number: " ++ name))

/-- A field with a truth value, false where it is not given. -/
def truth (q : Query) (name : String) : Answer Bool := do
  match ← q.once name with
  | none => return false
  | some s =>
      match readBool s with
      | some b => return b
      | none => throw (.invalidRequest ("not a truth value: " ++ name))

end Query

-- ================================================================== targets

/-- A character of the name of a scheme. -/
def isScheme (c : Char) : Bool :=
  c.isAlphanum || c == '+' || c == '-' || c == '.'

/-- What follows the scheme of an absolute target. -/
def behindScheme? (s : List Char) : Option (List Char) :=
  let scheme := s.takeWhile isScheme
  if scheme.isEmpty then none
  else after? [':', '/', '/'] (s.drop scheme.length)

/-- A target without the scheme and the authority of an absolute one. -/
def withoutAuthority (s : List Char) : List Char :=
  match behindScheme? s with
  | some rest => rest.dropWhile fun c => c != '/' && c != '?'
  | none => s

/-- A request target as path and query; what stands behind a hash sign
is for the client alone. The path that is left out is the root. -/
def readTarget (uri : String) : List Char × Query :=
  let shown := withoutAuthority (uri.toList.takeWhile (· != '#'))
  let (path, query) := match cut '?' shown with
    | some (path, query) => (path, readForm query)
    | none => (shown, [])
  (if path.isEmpty then ['/'] else path, query)

end BatchAdmin.Web
