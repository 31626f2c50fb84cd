/-
Where the staging area is.

The root of the area is a folder somewhere in a file system. Locations are
told from there: the location of an entry under the root is the names from
the root down to it, and every other location starts with the name `/`,
which no entry has, and goes on with the names from the top of the file
system. What the root is called in the settings matters too, since the
system counts the octets of a way as it is spelled.
-/
import BatchAdmin.Text.Octets

namespace BatchAdmin

open Text

/-- The names from the root of the area down to an entry; for an entry
elsewhere those from the top of the file system, after a `/`. -/
abbrev Location := List String

namespace Location

/-- The location is not in the area. -/
def outside (loc : Location) : Bool := loc.head? == some "/"

/-- The top of the file system. -/
def top : Location := ["/"]

/-- Where the null device is. -/
def nullDevice : Location := ["/", "dev", "null"]

end Location

/-- The root of a staging area. -/
structure StagingRoot where
  /-- What the settings call it. -/
  spelled : String
  /-- The names from the top of the file system down to it. -/
  site : List String
  /-- The null device is not in the area. -/
  apart : ¬"/" :: site <+: Location.nullDevice
  deriving DecidableEq

namespace StagingRoot

/-- A root in a folder that has been made for a while. -/
def usual : StagingRoot :=
  { spelled := "/tmp/.tmp000000/staging"
    site := ["tmp", ".tmp000000", "staging"]
    apart := by decide }

-- ================================================================ the ways

/-- The location of a name in a folder; from outside a way can lead back
to the root. -/
def below (root : StagingRoot) (folder : Location) (name : String) :
    Location :=
  if folder ++ [name] = "/" :: root.site then [] else folder ++ [name]

/-- The location of the folder that a folder is in; the top of the file
system is in itself. -/
def above (root : StagingRoot) (folder : Location) : Location :=
  if folder = [] then "/" :: root.site.dropLast
  else if folder = Location.top then Location.top
  else folder.dropLast

/-- The locations of the folders that the root is in. -/
def parents (root : StagingRoot) : List Location :=
  (List.range root.site.length).map fun n => "/" :: root.site.take n

-- ============================================================= their lengths

/-- The most octets that the system allows a way to have. -/
def longestWay : Nat := 4095

/-- The octets of some names, with a slash before each of them. -/
def wayLength (names : List String) : Nat :=
  names.foldl (fun n name => n + 1 + (octetsOf name).length) 0

/-- No slash is put between the root and the names below it. -/
def unslashed (root : StagingRoot) : Bool :=
  root.spelled.toList.getLast?.all (· == '/')

/-- The way along these names, from the root as it is spelled, has more
octets than one may have. -/
def tooFar (root : StagingRoot) (names : List String) : Bool :=
  longestWay + (if root.unslashed then 1 else 0)
    < (octetsOf root.spelled).length + wayLength names

end StagingRoot

end BatchAdmin
