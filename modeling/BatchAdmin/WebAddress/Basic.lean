/-
Web addresses in their one written form.

An address has a scheme and, behind it, a host with a port, a path, a
query and a fragment. Blanks around it and line ends in it do not count.
Schemes and hosts are written small, the port that a scheme has by
itself is left out, the path starts at the root and goes nowhere twice.
What stands in front of an at sign is for the host alone and is not part
of the address.

Only an address with a host, of one of two schemes, can be posted to.
-/
import BatchAdmin.WebAddress.Host
import BatchAdmin.WebAddress.Path
import BatchAdmin.Text.Blank

namespace BatchAdmin

open Text

/-- A web address. -/
structure WebAddress where
  scheme : List Char
  /-- The host, empty where a place for one was left; none where there
  is no such place. -/
  host : Option (List Char)
  port : Option Nat
  path : List Char
  query : Option (List Char)
  fragment : Option (List Char)
  deriving DecidableEq, Repr

namespace WebAddress

-- ================================================================== schemes

/-- A character of a scheme. -/
def isScheme (c : Char) : Bool :=
  c.isAlphanum || c == '+' || c == '-' || c == '.'

/-- The scheme in front, in small letters, and what follows its
colon. -/
def scheme? (s : List Char) : Option (List Char × List Char) :=
  let scheme := s.takeWhile isScheme
  match s.drop scheme.length with
  | ':' :: rest =>
      if scheme.head?.any Char.isAlpha then some (lower scheme, rest)
      else none
  | _ => none

/-- The port that a scheme has by itself. -/
def usualPort? (scheme : List Char) : Option Nat :=
  match String.ofList scheme with
  | "http" | "ws" => some 80
  | "https" | "wss" => some 443
  | "ftp" => some 21
  | _ => none

/-- A scheme whose addresses always have a host. -/
def needsHost (scheme : List Char) : Bool := (usualPort? scheme).isSome

/-- A scheme in which a backslash is a slash. -/
def isSpecial (scheme : List Char) : Bool :=
  needsHost scheme || scheme == "file".toList

/-- A slash in addresses of a scheme. -/
def isSlash (scheme : List Char) (c : Char) : Bool :=
  c == '/' || (isSpecial scheme && c == '\\')

-- =================================================================== places

/-- What follows the last at sign. -/
def behindAt (s : List Char) : List Char :=
  (s.reverse.takeWhile (· != '@')).reverse

/-- A host and what follows it: colons in brackets belong to it. -/
def splitHost (inside : Bool) : List Char → List Char × List Char
  | [] => ([], [])
  | c :: rest =>
      if c == ':' && !inside then ([], c :: rest)
      else
        let inside := c == '[' || (inside && c != ']')
        let (host, rest) := splitHost inside rest
        (c :: host, rest)

/-- A port, if there is one that the scheme does not have by itself. -/
def port? (scheme : List Char) (s : List Char) : Option (Option Nat) :=
  match s with
  | [] | [':'] => some none
  | ':' :: ds => do
      let n ← readDigits ds
      if 65535 < n then none
      else some (if usualPort? scheme = some n then none else some n)
  | _ => none

/-- A host in an address that need not have one. -/
def freeHost? (s : List Char) : Option (List Char) :=
  match s with
  | '[' :: rest => eight? rest
  | s =>
      if s.any fun c => isForbidden c && c != '%' && c != '\x7f' then none
      else some (escapedFor (fun _ => false) s)

/-- The host and the port in front of a path. -/
def place? (scheme authority : List Char) :
    Option (List Char × Option Nat) := do
  let (host, rest) := splitHost false (behindAt authority)
  let port ← port? scheme rest
  if host.isEmpty then
    let bare := authority.isEmpty && !needsHost scheme
    if bare then some ([], none) else none
  else if isSpecial scheme then return (← host? host, port)
  else return (← freeHost? host, port)

-- ================================================================ addresses

/-- An address with a place for a host; `s` begins behind the slashes in
front of it. -/
def hosted? (scheme s : List Char) : Option WebAddress := do
  let authority := s.takeWhile fun c => !isSlash scheme c
  let path := s.drop authority.length
  let (host, port) ← place? scheme authority
  let path := if path.isEmpty && !isSpecial scheme then []
    else rooted (isSlash scheme) path
  return { scheme, host := some host, port, path
           query := none, fragment := none }

/-- An address without a place for a host. -/
def bare (scheme : List Char) (host : Option (List Char))
    (path : List Char) : WebAddress :=
  { scheme, host, port := none, path, query := none, fragment := none }

/-- The host of a file, if it is another one than this. -/
def fileHost? (s : List Char) : Option (List Char) := do
  let host ← if s.isEmpty then some [] else host? s
  return if host = "localhost".toList then [] else host

/-- The address of a file. -/
def file? (scheme s : List Char) : Option WebAddress :=
  let here := bare scheme (some []) (rooted (isSlash scheme) s)
  match s with
  | a :: b :: rest =>
      if isSlash scheme a && isSlash scheme b then
        let authority := rest.takeWhile fun c => !isSlash scheme c
        let path := rest.drop authority.length
        (fileHost? authority).map fun host =>
          bare scheme (some host) (rooted (isSlash scheme) path)
      else some here
  | _ => some here

/-- An address up to its query. -/
def main? (scheme s : List Char) : Option WebAddress :=
  if needsHost scheme then hosted? scheme (s.dropWhile (isSlash scheme))
  else if isSpecial scheme then file? scheme s
  else
    match s with
    | '/' :: '/' :: rest => hosted? scheme rest
    | '/' :: _ => some (bare scheme none (rooted (isSlash scheme) s))
    | s => some (bare scheme none (escapedFor (fun _ => false) s))

/-- What stands before a mark, and what follows it if it is there. -/
def cutAt (mark : Char) (s : List Char) :
    List Char × Option (List Char) :=
  match cut mark s with
  | some (before, rest) => (before, some rest)
  | none => (s, none)

/-- A character that does not count at either end of an address. -/
def isEdge (c : Char) : Bool := c.toNat ≤ 0x20

/-- A character that does not count anywhere in an address. -/
def isBreak (c : Char) : Bool := c == '\t' || c == '\n' || c == '\r'

/-- The address that a text gives. -/
def read? (text : String) : Option WebAddress := do
  let s := (trimOf isEdge text.toList).filter fun c => !isBreak c
  let (scheme, s) ← scheme? s
  let (s, fragment) := cutAt '#' s
  let (s, query) := cutAt '?' s
  let address ← main? scheme s
  return { address with
    query := query.map (escapedQuery (isSpecial scheme))
    fragment := fragment.map escapedFragment }

-- ================================================================= writing

/-- A part behind its mark, if there is one. -/
def marked (mark : Char) (s : Option (List Char)) : List Char :=
  (s.map (mark :: ·)).getD []

/-- What stands between the scheme and the path; a path that would be
taken for a host has a dot in front. -/
def lead (a : WebAddress) : List Char :=
  match a.host with
  | some host => ['/', '/'] ++ host ++ marked ':' (a.port.map writeNat)
  | none => if ['/', '/'].isPrefixOf a.path then ['/', '.'] else []

/-- An address as text. -/
def text (a : WebAddress) : String :=
  String.ofList (a.scheme ++ ':' :: a.lead ++ a.path
    ++ marked '?' a.query ++ marked '#' a.fragment)

/-- A character that a name may have but a request may not. -/
def isUnsendable (c : Char) : Bool :=
  "\"\x60\x7b\x7d".toList.contains c

/-- The address can be posted to. -/
def isPostable (a : WebAddress) : Bool :=
  (a.scheme == "http".toList || a.scheme == "https".toList)
    && a.host.any fun host => !host.any isUnsendable

end WebAddress

end BatchAdmin
