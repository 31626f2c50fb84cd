/-
The staging area: the calls through which staged files are reached.

Each call is one step on the area. Listing and looking up change
nothing. A file is created empty in one step; an upload goes through
several, and until the last of them it is a draft: a hidden file, named
with the reserved prefix, in the folder of its destination. `commit`
moves the draft to its destination in one step, in place of any file or
link there, and `discard` takes it away. Since no staged path has a piece
with the reserved prefix, a draft can neither be listed nor addressed.

A caller of these steps may be interleaved with any other; what holds
of staged files at every moment is a property of sequences of steps.
Every call can be made to fail before it does anything (`StoreFaults`).
-/
import BatchAdmin.Staging.Path
import BatchAdmin.Staging.Disk

namespace BatchAdmin

open Text

-- ================================================================ the area

/-- The calls that can be made to fail. -/
inductive StoreCall where
  | list
  | stat
  | create
  | stage
  /-- A write to a draft that has had `earlier` writes. -/
  | write (earlier : Nat)
  | commit
  deriving DecidableEq, Repr

/-- Which calls fail, and for which paths removal does. -/
structure StoreFaults where
  fails : StoreCall → Bool
  stuck : String → Bool

/-- Nothing is made to fail. -/
def StoreFaults.none : StoreFaults := ⟨fun _ => false, fun _ => false⟩

/-- The staging area. -/
structure StagingArea where
  disk : Disk
  /-- How many drafts there have been. -/
  drafts : Nat
  deriving DecidableEq

/-- A staged file as the store knows it. -/
structure StoredFile where
  path : StagePath
  modified : Instant
  size : Nat
  deriving DecidableEq

/-- An upload on its way to its destination. -/
structure Draft where
  path : StagePath
  /-- Where the hidden file is. -/
  hidden : Location

namespace StagingArea

/-- An area with nothing in it. -/
def fresh (root : StagingRoot := .usual) : StagingArea := ⟨.fresh root, 0⟩

/-- Fails if this call is made to fail. -/
def guard (faults : StoreFaults) (call : StoreCall) :
    Except DiskFault Unit :=
  if faults.fails call then .error .unavailable else .ok ()

-- ================================================================ listings

/-- The staged file at a location, unless the location is no staged
path. -/
def stagedAt : Location × DiskEntry → Option StoredFile
  | (loc, .file content modified) =>
      match StagePath.readChars (joined ['/'] (loc.map String.toList)) with
      | .ok path => some { path, modified, size := content.length }
      | .error _ => none
  | _ => none

/-- All staged files in the order of their paths. -/
def files (area : StagingArea) : List StoredFile :=
  (area.disk.entries.filterMap stagedAt).mergeSort
    fun a b => decide (a.path.text ≤ b.path.text)

/-- The listing call. -/
def list (area : StagingArea) (faults : StoreFaults) :
    Except DiskFault (List StoredFile) := do
  guard faults .list
  return area.files

/-- The staged file at a path, if there is one. -/
def stat (area : StagingArea) (faults : StoreFaults) (path : StagePath) :
    Except DiskFault (Option StoredFile) := do
  guard faults .stat
  match area.disk.find true path.names with
  | .ok (.found _ (.file content modified)) =>
      return some { path, modified, size := content.length }
  | .ok _ => return none
  | .error .notFound => return none
  | .error fault => throw fault

-- ========================================================== creating files

/-- An empty file at a path; a file already there is emptied. -/
def create (area : StagingArea) (faults : StoreFaults)
    (path : StagePath) (now : Instant) :
    Except DiskFault StoredFile × StagingArea :=
  match guard faults .create with
  | .error fault => (.error fault, area)
  | .ok () =>
      match area.disk.makeFolders path.names.dropLast with
      | (.error fault, disk) => (.error fault, { area with disk })
      | (.ok _, disk) =>
          match disk.truncate path.names now with
          | (.error fault, disk) => (.error fault, { area with disk })
          | (.ok _, disk) =>
              (.ok { path, modified := now, size := 0 },
                { area with disk })

-- ================================================================= uploads

/-- The name of the n-th draft. -/
def draftName (n : Nat) : String :=
  String.ofList (StagePath.reserved ++ writePadded 36 n ++ ".part".toList)

/-- Opens a draft beside the destination. -/
def stage (area : StagingArea) (faults : StoreFaults)
    (path : StagePath) (now : Instant) :
    Except DiskFault Draft × StagingArea :=
  match guard faults .stage with
  | .error fault => (.error fault, area)
  | .ok () =>
      match area.disk.makeFolders path.names.dropLast with
      | (.error fault, disk) => (.error fault, { area with disk })
      | (.ok folder, disk) =>
          let name := draftName area.drafts
          let hidden := disk.root.below folder name
          if disk.root.tooFar (path.names.dropLast ++ [name]) then
            (.error .nameTooLong, { area with disk })
          else
            (.ok { path, hidden },
              { disk := disk.set hidden (.file [] now)
                drafts := area.drafts + 1 })

/-- More content for a draft that has had `earlier` writes. -/
def write (area : StagingArea) (faults : StoreFaults) (draft : Draft)
    (earlier : Nat) (more : List Octet) (now : Instant) :
    Except DiskFault StagingArea := do
  guard faults (.write earlier)
  let disk ← area.disk.append draft.hidden more now
  return { area with disk }

/-- The content of a draft so far. -/
def draftFile? (area : StagingArea) (draft : Draft) :
    Option (List Octet × Instant) :=
  match area.disk.look draft.hidden with
  | some (.file content modified) => some (content, modified)
  | _ => none

/-- Moves a draft to its destination and looks for the file there. What
has been moved stays moved, also when it cannot be found. -/
def commit (area : StagingArea) (faults : StoreFaults) (draft : Draft) :
    Except DiskFault StoredFile × StagingArea :=
  match guard faults .commit, area.draftFile? draft with
  | .error fault, _ => (.error fault, area)
  | .ok (), none => (.error .notFound, area)
  | .ok (), some _ =>
      match area.disk.rename draft.hidden draft.path.names with
      | .error fault => (.error fault, area)
      | .ok disk =>
          match disk.find true draft.path.names with
          | .error fault => (.error fault, { area with disk })
          | .ok (.found _ (.file content modified)) =>
              (.ok { path := draft.path, modified, size := content.length },
                { area with disk })
          | .ok _ => (.error .notFound, { area with disk })

/-- Takes a draft away that was not committed; one that has been moved is
not there any more. -/
def discard (area : StagingArea) (draft : Draft) : StagingArea :=
  { area with disk := area.disk.unset draft.hidden }

-- ================================================================ removing

/-- Removes the file at a path; tells whether there was one. -/
def remove (area : StagingArea) (faults : StoreFaults)
    (path : StagePath) : Except DiskFault (Bool × StagingArea) := do
  if faults.stuck path.text then throw .unavailable
  let (gone, disk) ← area.disk.remove path.names
  return (gone, { area with disk })

end StagingArea

end BatchAdmin
