/-
The disk under the staging area.

A disk is a list of entries, each at its own location, and another list of
the entries elsewhere in the file system, as far as they matter. The root
of the area has the empty location and may be missing. An entry is a
folder, a file with its content and the time it was last written, or a
link to another location.

Operations look locations up name by name, as the operating system does:
a file is not a folder, so nothing can be looked up or put below one; a
name of more than 255 octets or with a zero octet is refused; links on
the way are followed, at most forty of them, and may lead out of the area
and back into it. Before any of this the names are refused that are too
long as a whole. Nothing is kept from being written but the null device,
which stays where it is. A failing operation leaves what it had done so far:
folders made on the way to a file stay.
-/
import BatchAdmin.Staging.Root
import BatchAdmin.Time.Instant
import BatchAdmin.Text.Cut

namespace BatchAdmin

open Text

-- ============================================================= the entries

/-- What is found at a location. -/
inductive DiskEntry where
  | folder
  | file (content : List Octet) (modified : Instant)
  | link (target : String)
  deriving DecidableEq

/-- Why the disk refuses an operation. -/
inductive DiskFault where
  | notFound
  | notAFolder
  | isAFolder
  | nameTooLong
  | badName
  | tooManyLinks
  /-- The operation was made to fail. -/
  | unavailable
  deriving DecidableEq, Repr

/-- A disk fault in words. -/
def DiskFault.message : DiskFault → String
  | .notFound => "entry not found"
  | .notAFolder => "not a folder"
  | .isAFolder => "is a folder"
  | .nameTooLong => "file name too long"
  | .badName => "file name contained a zero octet"
  | .tooManyLinks => "too many levels of links"
  | .unavailable => "storage is unavailable"

/-- A disk with a staging area on it. -/
structure Disk where
  /-- The entries under the root of the area, and the root. -/
  entries : List (Location × DiskEntry)
  /-- The entries elsewhere. -/
  abroad : List (Location × DiskEntry)
  root : StagingRoot
  deriving DecidableEq

namespace Disk

/-- A disk without even the root: there are the folders that it was in,
and the folder of the null device. -/
def gone (root : StagingRoot := .usual) : Disk :=
  { entries := []
    abroad := (["/", "dev"] :: root.parents).map (·, .folder), root }

/-- A disk with nothing in the area but the root. -/
def fresh (root : StagingRoot := .usual) : Disk :=
  { gone root with entries := [([], .folder)] }

-- ======================================================== entries directly

/-- The entry at a location in the area. -/
def get? (d : Disk) (loc : Location) : Option DiskEntry :=
  (d.entries.find? fun e => e.1 == loc).map (·.2)

/-- The disk without the entry at a location in the area. -/
def erase (d : Disk) (loc : Location) : Disk :=
  { d with entries := d.entries.filter fun e => e.1 != loc }

/-- The disk with an entry at a location in the area, in place of any
other. -/
def put (d : Disk) (loc : Location) (e : DiskEntry) : Disk :=
  { d with entries := (d.erase loc).entries ++ [(loc, e)] }

/-- The area and the rest of the disk, changed for each other. -/
def turned (d : Disk) : Disk :=
  { d with entries := d.abroad, abroad := d.entries }

/-- The entry at a location, wherever it is. -/
def look (d : Disk) (loc : Location) : Option DiskEntry :=
  if loc.outside then d.turned.get? loc else d.get? loc

/-- The disk without the entry at a location, wherever it is. -/
def unset (d : Disk) (loc : Location) : Disk :=
  if loc.outside then (d.turned.erase loc).turned else d.erase loc

/-- The disk with an entry at a location, wherever it is, in place of any
other. -/
def set (d : Disk) (loc : Location) (e : DiskEntry) : Disk :=
  if loc.outside then (d.turned.put loc e).turned else d.put loc e

-- ================================================================= look-up

/-- Where a location leads. -/
inductive Place where
  /-- To an entry. -/
  | found (loc : Location) (e : DiskEntry)
  /-- To a name that is free in an existing folder. -/
  | free (loc : Location)
  /-- To the null device. -/
  | null

/-- The longest name an entry may have, in octets. -/
def longestName : Nat := 255

/-- How many links may be followed on one way. -/
def mostLinks : Nat := 40

/-- A name has more octets than an entry may have. -/
def tooLong (name : String) : Bool :=
  longestName < (octetsOf name).length

/-- A name has a zero octet. -/
def hasZero (name : String) : Bool :=
  name.toList.any fun c => c.toNat == 0

/-- The names a link target goes through. With a slash at its start it
goes from the top of the file system, and with one at its end it leads to
a folder, which the name `.` stands for. -/
def targetNames (target : String) : List String :=
  let start := if target.toList.head? = some '/' then ["/"] else []
  let names := (pieces (· == '/') target.toList).filter fun p =>
    !p.isEmpty
  let final := if target.toList.getLast? = some '/' then ["."] else []
  start ++ names.map String.ofList ++ final

/-- Goes down from the folder `loc` along `names`. Where a link is met, the
way goes on as `follow` says of its folder, its target and the names left;
the link at the very end is followed if `through` says so. -/
def descend (d : Disk) (through : Bool)
    (follow : Location → String → List String → Except DiskFault Place)
    (loc : Location) : List String → Except DiskFault Place
  | [] =>
      match d.look loc with
      | some e => .ok (.found loc e)
      | none => .error .notFound
  | name :: more =>
      if name = "." then descend d through follow loc more
      else if name = ".." then
        descend d through follow (d.root.above loc) more
      else if name = "/" then descend d through follow Location.top more
      else if tooLong name then .error .nameTooLong
      else
        let here := d.root.below loc name
        if here = Location.nullDevice then
          if more = [] then .ok .null else .error .notAFolder
        else
          match d.look here with
          | none =>
              if more = [] then .ok (.free here) else .error .notFound
          | some .folder => descend d through follow here more
          | some (.file content modified) =>
              if more = [] then .ok (.found here (.file content modified))
              else .error .notAFolder
          | some (.link target) =>
              if more = [] ∧ through = false then
                .ok (.found here (.link target))
              else follow loc target more

/-- Goes down from a folder along names, with this many links followed at
most. -/
def walk (d : Disk) (through : Bool) :
    Nat → Location → List String → Except DiskFault Place
  | 0 => d.descend through fun _ _ _ => .error .tooManyLinks
  | links + 1 => d.descend through fun loc target more =>
      d.walk through links loc (targetNames target ++ more)

/-- Where the names lead from the root; nowhere without a root. -/
def find (d : Disk) (through : Bool) (names : List String) :
    Except DiskFault Place :=
  if names.any hasZero then .error .badName
  else if d.root.tooFar names then .error .nameTooLong
  else
    match d.get? [] with
    | some .folder => d.walk through mostLinks [] names
    | some _ => .error .notAFolder
    | none => .error .notFound

-- ================================================================= folders

/-- Makes the folders along `names` below the folder `loc` that are not
there, and tells where they lead. What has been made stays made, also
when a name on the way is refused. -/
def makeFoldersFrom (d : Disk) (loc : Location) :
    List String → Except DiskFault Location × Disk
  | [] => (.ok loc, d)
  | name :: more =>
      if tooLong name then (.error .nameTooLong, d)
      else
        let here := d.root.below loc name
        if here = Location.nullDevice then (.error .notAFolder, d)
        else
          match d.look here with
          | none => (d.set here .folder).makeFoldersFrom here more
          | some .folder => d.makeFoldersFrom here more
          | some (.file _ _) => (.error .notAFolder, d)
          | some (.link _) =>
              match d.walk true mostLinks loc [name] with
              | .ok (.found there .folder) => d.makeFoldersFrom there more
              | .ok _ => (.error .notAFolder, d)
              | .error fault => (.error fault, d)

/-- Makes the folders along `names`, the root included. -/
def makeFolders (d : Disk) (names : List String) :
    Except DiskFault Location × Disk :=
  if names.any hasZero then (.error .badName, d)
  else if d.root.tooFar names then (.error .nameTooLong, d)
  else
    match d.get? [] with
    | some .folder => d.makeFoldersFrom [] names
    | some _ => (.error .notAFolder, d)
    | none => (d.put [] .folder).makeFoldersFrom [] names

-- =================================================================== files

/-- An empty file at the end of `names`; an existing file is emptied.
Tells where the file is, which is nowhere for the null device. -/
def truncate (d : Disk) (names : List String) (now : Instant) :
    Except DiskFault (Option Location) × Disk :=
  match d.find true names with
  | .error fault => (.error fault, d)
  | .ok (.free loc) => (.ok (some loc), d.set loc (.file [] now))
  | .ok (.found loc (.file _ _)) =>
      (.ok (some loc), d.set loc (.file [] now))
  | .ok (.found _ _) => (.error .isAFolder, d)
  | .ok .null => (.ok none, d)

/-- More content at the end of the file at a location. -/
def append (d : Disk) (loc : Location) (more : List Octet)
    (now : Instant) : Except DiskFault Disk :=
  match d.look loc with
  | some (.file content _) => .ok (d.set loc (.file (content ++ more) now))
  | _ => .error .notFound

/-- Moves the file at a location to the end of `names`, in place of the
file or link there. -/
def rename (d : Disk) (source : Location) (names : List String) :
    Except DiskFault Disk :=
  match d.look source, d.find false names with
  | some e, .ok (.free loc) => .ok ((d.unset source).set loc e)
  | _, .ok (.found _ .folder) => .error .isAFolder
  | some e, .ok (.found loc _) => .ok ((d.unset source).set loc e)
  | none, _ => .error .notFound
  | _, .ok .null => .error .unavailable
  | _, .error fault => .error fault

/-- Removes the file or link at the end of `names`; tells whether there
was one. -/
def remove (d : Disk) (names : List String) :
    Except DiskFault (Bool × Disk) :=
  match d.find false names with
  | .ok (.found _ .folder) => .error .isAFolder
  | .ok (.found loc _) => .ok (true, d.unset loc)
  | .ok (.free _) => .ok (false, d)
  | .ok .null => .error .unavailable
  | .error .notFound => .ok (false, d)
  | .error fault => .error fault

-- ======================================================== changes by others

/-- A file with this content at a location, with the folders it needs. -/
def write (d : Disk) (names : List String) (content : List Octet)
    (now : Instant) : Disk :=
  let (made, d) := d.makeFolders names.dropLast
  match made with
  | .error _ => d
  | .ok _ =>
      match d.truncate names now with
      | (.ok (some loc), d) => d.set loc (.file content now)
      | (_, d) => d

/-- A link at the end of `names`, if that name is free. -/
def addLink (d : Disk) (names : List String) (target : String) : Disk :=
  let (made, d) := d.makeFolders names.dropLast
  match made, d.find false names with
  | .ok _, .ok (.free loc) => d.set loc (.link target)
  | _, _ => d

/-- A new time on the file at the end of `names`; files know no leap
seconds. -/
def setModified (d : Disk) (names : List String) (time : Instant) : Disk :=
  match d.find true names with
  | .ok (.found loc (.file content _)) =>
      d.set loc (.file content time.carried)
  | _ => d

end Disk

end BatchAdmin
