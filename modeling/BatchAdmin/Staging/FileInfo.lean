/-
What clients are told about a staged file.

The short path is the path without the configured root in front, where
the root is a whole folder and not just the start of a name. A file that
comes from an upload carries the number of that upload, which tells two
uploads to one path apart even when the clock does not; clients do not
see it.
-/
import BatchAdmin.Json.Basic
import BatchAdmin.Text.Cut
import BatchAdmin.Text.Blank

namespace BatchAdmin

open Text

/-- A staged file as clients see it. -/
structure FileInfo where
  path : String
  shortPath : String
  timestamp : String
  isLocal : Bool
  /-- How many files a delete took away; zero otherwise. -/
  deleteCount : Nat
  /-- The upload that made the file, if one did. -/
  uploadId : Option Nat
  deriving DecidableEq, Repr

namespace FileInfo

/-- The path without the folder `root` in front. -/
def shorten (path root : List Char) : List Char :=
  let folder := trimOf (· == '/') root
  if folder.isEmpty then path
  else
    match after? folder path with
    | some ('/' :: rest) => ('/' :: rest).dropWhile (· == '/')
    | _ => path

/-- What is told about a file. -/
def ofFile (path timestamp : String) (isLocal : Bool) (root : String) :
    FileInfo :=
  { path
    shortPath := String.ofList (shorten path.toList root.toList)
    timestamp, isLocal, deleteCount := 0, uploadId := none }

/-- What is told about a delete: its pattern and how many files went. -/
def ofDelete (pattern : String) (count : Nat) : FileInfo :=
  { path := pattern, shortPath := pattern, timestamp := ""
    isLocal := true, deleteCount := count, uploadId := none }

/-- The fields of a file. -/
def fields (f : FileInfo) : List (String × Json) :=
  [("path", .text f.path), ("shortPath", .text f.shortPath),
    ("timestamp", .text f.timestamp), ("local", .bool f.isLocal),
    ("deleteCount", .nat f.deleteCount)]

/-- A file as a document. -/
def toJson (f : FileInfo) : Json := .object f.fields

end FileInfo

end BatchAdmin
